import BoxOffice.Pattern.Bracket
import BoxOffice.Pattern.Group
/-!
# Reading a whole pattern

`Tree.ofText` reads a pattern, or finds the first place where it breaks off or goes wrong: a bracket
without its partner, a repetition of nothing, an escape that means nothing.
-/

namespace BoxOffice.Pattern

/-- The parenthesis of a group that is open. -/
structure Parenthesis where
  place : Nat
  kind : GroupKind
  /-- Whether blanks and remarks are passed over behind the group. -/
  spaced : Bool

/-- A group, or the whole pattern, as far as it was read. -/
structure Level where
  /-- The whole pattern has none. -/
  parenthesis : Option Parenthesis := none
  /-- Where its content begins. -/
  first : Nat := 0
  /-- The branches before the last one, the last of them first. -/
  branches : List Tree := []
  /-- Where the last branch begins. -/
  begun : Nat := 0
  /-- The parts of the last branch, the last first. -/
  parts : List Tree := []

def Level.push (l : Level) (part : Tree) : Level := { l with parts := part :: l.parts }

def Level.branch (l : Level) (stop : Nat) : Tree :=
  match l.parts with
  | [] => .empty { start := l.begun, stop }
  | [part] => part
  | parts => .sequence { start := l.begun, stop } parts.reverse

def Level.bar (l : Level) (place : Nat) : Level :=
  { l with branches := l.branch place :: l.branches, begun := place + 1, parts := [] }

def Level.tree (l : Level) (stop : Nat) : Tree :=
  match l.branches with
  | [] => l.branch stop
  | branches => .choice { start := l.first, stop } (l.branch stop :: branches).reverse

namespace Read

/-! ## Repetitions -/

def number : Read (Option Nat × Span) := do
  let _ ← takeWhile Text.isBlank
  let start ← place
  let digits ← gather Char.isDigit
  let span := { start, stop := ← place }
  if (← peek).any Text.isBlank then
    let _ ← gather Text.isBlank
  if digits.isEmpty then return (none, span)
  return (some (digits.foldl (fun n d => 10 * n + (d.toNat - '0'.toNat)) 0), span)

def counted : Option Nat × Span → Read Nat
  | (none, span) => wrong .countEmpty span
  | (some n, span) => if n < UInt32.size then return n else wrong .digitsInvalid span

/-- A count between braces, and whether it is a greedy one. -/
def count : Read Repeat := do
  let start ← place
  if !(← step) then wrongFrom start .countUnclosed
  let first ← number
  if ← atEnd then wrongFrom start .countUnclosed
  let (least, most) ←
    if (← peek) = some ',' then
      if !(← step) then wrongFrom start .countUnclosed
      if (← peek) = some '\x7d' then pure (← counted first, none)
      else
        let least ← counted first
        pure (least, some (← counted (← number)))
    else
      let n ← counted first
      pure (n, some n)
  if (← peek) != some '\x7d' then wrongFrom start .countUnclosed
  let _ ← step
  let lazily ← takes "?"
  if most.any (· < least) then wrongFrom start .countBackwards
  return { least, most, greedy := !lazily }

def repeatSign (sign : Char) : Read Repeat := do
  skip 1
  let lazily ← takes "?"
  return { least := if sign == '+' then 1 else 0, most := if sign == '?' then some 1 else none,
           greedy := !lazily }

/-- A repetition of the last part of the level, whose sign is next. -/
def repetition (l : Level) (sign : Char) : Read Level := do
  match l.parts with
  | [] => wrongHere .nothingToRepeat
  | part :: parts =>
    if !part.isRepeatable then wrongHere .nothingToRepeat
    let times ← if sign == '\x7b' then count else repeatSign sign
    return { l with
      parts := .repeated { start := part.span.start, stop := ← place } times part :: parts }

/-! ## The whole -/

def single (c : Char) : Read Tree := do
  let span := Span.one (← place)
  if c == '.' || c == '^' || c == '$' then
    skip 1
    return if c == '.' then .dot span else .edge span (if c == '^' then .lineStart else .lineStop)
  else return (← symbol c).tree

/-- Reads a pattern to its end; `outer` are the levels around `this`, the innermost first.  Each step of
`n` passes over a character. -/
def patternIn : Nat → (this : Level) → (outer : List Level) → Read Tree
  | 0, this, _ => return this.tree (← place)
  | n + 1, this, outer => do
    space
    let here ← place
    match ← peek with
    | none =>
      match this.parenthesis with
      | none => return this.tree here
      | some p => wrong .groupUnclosed (.one p.place)
    | some '(' =>
      let spaced := (← get).spaced
      match ← groupFront with
      | .switched span switches =>
        modify fun r => { r with spaced := switches.after spaced .spaced }
        patternIn n (this.push (.switched span switches)) outer
      | .group kind =>
        if let .plain switches := kind then
          modify fun r => { r with spaced := switches.after spaced .spaced }
        let first ← place
        patternIn n { parenthesis := some { place := here, kind, spaced }, first, begun := first }
          (this :: outer)
    | some ')' =>
      match this.parenthesis, outer with
      | some p, around :: outer =>
        modify fun r => { r with spaced := p.spaced }
        skip 1
        let span := { start := p.place, stop := ← place }
        patternIn n (around.push (.group span p.kind (this.tree here))) outer
      | _, _ => wrongNext .groupUnopened
    | some '|' =>
      skip 1
      patternIn n (this.bar here) outer
    | some '[' => patternIn n (this.push (← bracketed)) outer
    | some c =>
      if "?*+\x7b".contains c then patternIn n (← repetition this c) outer
      else patternIn n (this.push (← single c)) outer

end Read

def Tree.ofText (text : String) : Except Misreading Tree :=
  Prod.fst <$> (Read.patternIn (text.length + 1) {} []).run { rest := text.toList }

end BoxOffice.Pattern
