import BoxOffice.Pattern.Depth
import BoxOffice.Pattern.Machine
import BoxOffice.Pattern.Meaning
import BoxOffice.Pattern.Tree
/-!
# Patterns

A pattern is a regular expression that notes are searched with.  `Pattern.fault?` says why a pattern
is refused, if it is.
-/

namespace BoxOffice.Pattern

/-- How many parts of a pattern may stand within each other. -/
def depthLimit : Nat := 250

/-- The bytes that a machine for a pattern may take. -/
def machineLimit : Nat := 10485760

def Expression.ofPattern (text : String) : Except Misreading Expression := do
  let tree ← Tree.ofText text
  match tree.tooDeep? depthLimit with
  | some span => misread (.tooDeep depthLimit) span
  | none => return (← tree.meaning {}).1

/-- Why notes are not searched for an expression, if they are not.  The machine that reads from the back
is made last. -/
def Expression.fault? (e : Expression) : Option Fault :=
  if e.isWordList then none
  else if machineLimit < e.machineBytes false then some (.tooLarge machineLimit)
  else if e.hasWideWord then some .wordsUnknown
  else if machineLimit < e.machineBytes true then some (.tooLarge machineLimit)
  else none

def fault? (text : String) : Option Fault :=
  match Expression.ofPattern text with
  | .error m => some (.misread m)
  | .ok e => e.fault?

end BoxOffice.Pattern
