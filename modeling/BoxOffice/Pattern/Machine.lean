import BoxOffice.Pattern.ByteRanges
import BoxOffice.Pattern.Expression
/-!
# The size of a machine

A note is searched by a machine that reads bytes and goes from state to state; a second one reads from
the back.  Before they are made, their sizes are worked out by `Expression.machineBytes`, and a pattern
is refused if one of them would be too large.

A state takes 32 bytes.  Where a state goes on by one of several ranges of bytes, each takes 8 bytes
more, and where it goes on by one of several ways without reading, each takes 4 bytes more.
-/

namespace BoxOffice.Pattern

def stateBytes : Nat := 32

def rangeBytes : Nat := 8

def wayBytes : Nat := 4

structure MachinePart where
  bytes : Nat
  /-- It ends in a state with several ways, so that going on from it takes one way more. -/
  forks : Bool := false
  /-- The fewest bytes that it reads. -/
  least : Option Nat
  /-- The text that it reads, if it is made for one. -/
  text? : Option (List Char) := none
  deriving DecidableEq, Repr

/-- The bytes of a part with the way out of it. -/
def MachinePart.withExit (p : MachinePart) : Nat := p.bytes + if p.forks then wayBytes else 0

/-! ## Sets of characters -/

/-- The states of a machine for rows, each as the rows that are left there.  Rows that begin with the same
range share a state behind it; `n` is the length of the longest row. -/
def rowStates : (n : Nat) → (rows : List (List CodeRange)) → List (List (List CodeRange))
  | 0, _ => []
  | n + 1, rows =>
    if rows.all (·.isEmpty) then []
    else
      rows :: (rows.splitBy fun a b => a.head? == b.head?).flatMap fun group =>
        rowStates n (group.map (·.drop 1))

/-- The bytes of a machine for rows; states where the same rows are left are one. -/
def rowBytes (rows : List (List CodeRange)) : Nat :=
  let states := (rowStates 4 rows).eraseDups
  states.foldl (fun n rows =>
    n + stateBytes + rangeBytes * (rows.splitBy fun a b => a.head? == b.head?).length) stateBytes

/-- The bytes of a machine that reads rows from the back; rows share the states of what they begin
with. -/
def rowBytesBackwards (rows : List (List CodeRange)) : Nat :=
  let fronts := (rows.flatMap fun row => (List.range row.length).map fun i => row.take (i + 1)).eraseDups
  2 * stateBytes + stateBytes * fronts.length + wayBytes * rows.length

def Codes.machineBytes (backwards : Bool) (s : Codes) : Nat :=
  if s.isAscii then 2 * stateBytes + rangeBytes * s.ranges.length
  else if backwards then rowBytesBackwards s.byteRows
  else rowBytes s.byteRows

/-! ## Choices between texts -/

/-- The texts between those that are empty, which end where they stand. -/
def chunks (texts : List (List Nat)) : List (List (List Nat)) :=
  let noneYet := texts.takeWhile (·.isEmpty)
  let rest := (texts.drop noneYet.length).splitOn []
  if noneYet.isEmpty then rest else [] :: rest

def firstBytes (texts : List (List Nat)) : List Nat := (texts.filterMap (·.head?)).eraseDups

/-- The bytes of a state where one of some texts is to be read, and of those behind it; `n` is more than
the length of the longest text.  The texts that begin with the same byte share a state behind it, but
a text that ends here parts those before it from those behind it. -/
def textsBytes : (n : Nat) → (texts : List (List Nat)) → Nat
  | 0, _ => 0
  | n + 1, texts =>
    let parts := chunks texts
    let ways := (parts.filter (!·.isEmpty)).length + (parts.length - 1)
    let chunkBytes (part : List (List Nat)) : Nat :=
      let firsts := firstBytes part
      let own :=
        if firsts.length = 0 then 0
        else if firsts.length = 1 then stateBytes
        else stateBytes + rangeBytes * firsts.length
      firsts.foldl (fun sum b =>
        let behind := (part.filter (·.head? = some b)).map (·.drop 1)
        sum + if behind.all (·.isEmpty) then 0 else textsBytes n behind) own
    parts.foldl (fun sum part => sum + chunkBytes part) (stateBytes + wayBytes * ways)

def choiceBytes (backwards : Bool) (texts : List (List Char)) : Nat :=
  let forms := texts.map fun chars =>
    let bytes := chars.flatMap fun c => utf8Bytes c.toNat
    if backwards then bytes.reverse else bytes
  let longest := forms.foldl (fun n form => max n form.length) 0
  stateBytes + textsBytes (longest + 1) forms

/-! ## Expressions -/

def MachinePart.times (p : MachinePart) (t : Repeat) : MachinePart :=
  let least := p.least.map (· * t.least)
  match t.most with
  | none =>
    if t.least = 0 then
      if p.least.any (0 < ·) then
        { bytes := p.withExit + stateBytes + wayBytes, forks := true, least }
      else { bytes := p.withExit + 3 * stateBytes + 4 * wayBytes, least }
    else { bytes := t.least * p.withExit + stateBytes + wayBytes, forks := true, least }
  | some most =>
    if most = 0 then { bytes := stateBytes, least }
    else if t.least = most then
      { bytes := (most - 1) * p.withExit + p.bytes, forks := p.forks, least }
    else
      let choices := most - t.least
      let ends := if t.least = 0 && most ≠ 1 then 2 else 1
      { bytes := most * p.withExit + choices * (stateBytes + 2 * wayBytes) + ends * stateBytes, least }

def MachinePart.inOrder (ps : List MachinePart) : MachinePart :=
  let least := Expression.leastSummary.sequence (ps.map (·.least))
  match ps.reverse with
  | [] => { bytes := stateBytes, least }
  | last :: others =>
    { bytes := others.foldl (fun n p => n + p.withExit) last.bytes, forks := last.forks, least }

def MachinePart.oneOf (backwards : Bool) (ps : List MachinePart) : MachinePart :=
  let least := Expression.leastSummary.choice (ps.map (·.least))
  match ps.mapM (·.text?) with
  | some texts => { bytes := choiceBytes backwards texts, least }
  | none =>
    { bytes := ps.foldl (fun n p => n + p.withExit + wayBytes) (2 * stateBytes), least }

def machineSummary (backwards : Bool) : Expression.Summary MachinePart where
  empty := { bytes := stateBytes, least := some 0 }
  text chars :=
    { bytes := stateBytes * (chars.flatMap fun c => utf8Bytes c.toNat).length
      least := Expression.leastSummary.text chars, text? := some chars }
  oneOf codes :=
    { bytes := codes.machineBytes backwards, least := Expression.leastSummary.oneOf codes }
  look _ := { bytes := stateBytes, least := some 0 }
  repeated times p := p.times times
  captured p :=
    if backwards then { p with text? := none }
    else { bytes := p.withExit + 2 * stateBytes, least := p.least }
  sequence ps := .inOrder (if backwards then ps.reverse else ps)
  choice := .oneOf backwards

/-- The bytes of the machine for an expression.  In front stands a loop over any bytes, unless the
expression can only be found at one end; behind stands a state for what was found. -/
def Expression.machineBytes (backwards : Bool) (e : Expression) : Nat :=
  let front :=
    if e.isAnchored backwards then stateBytes else 3 * stateBytes + rangeBytes + 2 * wayBytes
  let whole := (e.summary (machineSummary backwards)).withExit
  front + whole + stateBytes + if backwards then 0 else 2 * stateBytes

def Expression.isText : Expression → Bool
  | .text _ => true
  | _ => false

/-- Whether it is a choice between so many texts that it is searched for in another way. -/
def Expression.isWordList (e : Expression) : Bool :=
  match e with
  | .choice branches => 3000 ≤ branches.length && branches.all isText
  | _ => false

end BoxOffice.Pattern
