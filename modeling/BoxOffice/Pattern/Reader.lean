import BoxOffice.Pattern.Basic
import BoxOffice.Text.Blank
/-!
# Reading a pattern

A pattern is read from its front to its back.  `Read` is a step of that: it knows what is left and how
much was read, and may come upon a fault.  Where the flag for it is on, blanks and remarks may stand
between the characters of a pattern; `space` passes over them, and `step` does so behind a character.
-/

namespace BoxOffice.Pattern

structure Reader where
  rest : List Char
  /-- How many characters were read. -/
  place : Nat := 0
  /-- Blanks and remarks are passed over. -/
  spaced : Bool := false
  /-- The names of groups and where they stand, the last first. -/
  names : List (List Char × Span) := []
  /-- How many groups keep what they find. -/
  captured : Nat := 0

/-- A step that may come upon a fault. -/
abbrev Read := StateT Reader (Except Misreading)

/-- How many characters of blanks and remarks a text begins with; a remark goes from a number sign to
the end of the line. -/
def spaceLength (remark : Bool) : List Char → Nat
  | [] => 0
  | c :: cs =>
    if remark then spaceLength (c != '\n') cs + 1
    else if Text.isBlank c then spaceLength false cs + 1
    else if c == '#' then spaceLength true cs + 1
    else 0

/-- The first character of a text that is neither blank nor the first number sign. -/
def firstVisible? (remark : Bool) : List Char → Option Char
  | [] => none
  | c :: cs =>
    if Text.isBlank c then firstVisible? remark cs
    else if !remark && c == '#' then firstVisible? true cs
    else some c

namespace Read

def place : Read Nat := return (← get).place

def peek : Read (Option Char) := return (← get).rest.head?

def atEnd : Read Bool := return (← get).rest.isEmpty

/-- The character behind the next one; behind blanks, where they do not count. -/
def peekBehind : Read (Option Char) := do
  let r ← get
  let behind := r.rest.drop 1
  return if r.spaced then (firstVisible? false behind).or behind.head? else behind.head?

def skip (n : Nat) : Read Unit :=
  modify fun r => { r with rest := r.rest.drop n, place := r.place + n }

/-- Passes over blanks and remarks, where they do not count. -/
def space : Read Unit := do
  let r ← get
  if r.spaced then skip (spaceLength false r.rest)

/-- Passes over a character and the blanks behind it, and says whether anything is left. -/
def step : Read Bool := do
  skip 1
  space
  return !(← atEnd)

/-- Passes over a text if it is next, and says whether it was. -/
def takes (text : String) : Read Bool := do
  if text.toList.isPrefixOf (← get).rest then
    skip text.length
    return true
  else return false

def takeWhile (p : Char → Bool) : Read (List Char) := do
  let cs := (← get).rest.takeWhile p
  skip cs.length
  return cs

/-- Passes over characters that are as `p` says and the blanks behind each of them, and gives the
characters.  Each step of `n` passes over a character. -/
def gatherIn (p : Char → Bool) : Nat → Read (List Char)
  | 0 => return []
  | n + 1 => do
    match ← peek with
    | none => return []
    | some c =>
      if p c then
        let _ ← step
        return c :: (← gatherIn p n)
      else return []

/-- Passes over characters that are as `p` says and the blanks behind each of them, and gives the
characters. -/
def gather (p : Char → Bool) : Read (List Char) := do gatherIn p (← get).rest.length

/-- Passes over the first of some texts that is next, and gives what belongs to it. -/
def takesOneOf {α : Type} : List (String × α) → Read (Option α)
  | [] => return none
  | (text, a) :: others => do if ← takes text then return some a else takesOneOf others

/-! ## Faults -/

def wrong {α : Type} (flaw : Flaw) (span : Span) : Read α := throw { flaw, span }

def wrongFrom {α : Type} (start : Nat) (flaw : Flaw) : Read α := do
  wrong flaw { start, stop := ← place }

def wrongHere {α : Type} (flaw : Flaw) : Read α := do wrong flaw (.here (← place))

def wrongNext {α : Type} (flaw : Flaw) : Read α := do wrong flaw (.one (← place))

end Read

end BoxOffice.Pattern
