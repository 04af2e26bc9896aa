import BoxOffice.Pattern.Basic
/-!
# Sets of characters

`Codes` are the code points of some characters, as ranges in order that neither overlap nor touch.  The
code points between 0xD800 and 0xDFFF are no characters, so 0xE000 is next to 0xD7FF.  A set also knows
whether it is closed under exchanging the cases of letters.
-/

namespace BoxOffice.Pattern

/-- The code points from `first` to `last`, both among them. -/
structure CodeRange where
  first : Nat
  last : Nat
  deriving DecidableEq, Repr

namespace CodeRange

/-- The range between two code points, in whichever order they are. -/
def between (m n : Nat) : CodeRange := if m ≤ n then ⟨m, n⟩ else ⟨n, m⟩

/-- The code point of the character before the one with code point `n`. -/
def before (n : Nat) : Nat := if n = 0xE000 then 0xD7FF else n - 1

/-- The code point of the character behind the one with code point `n`. -/
def behind (n : Nat) : Nat := if n = 0xD7FF then 0xE000 else n + 1

def both? (r s : CodeRange) : Option CodeRange :=
  let first := max r.first s.first
  let last := min r.last s.last
  if first ≤ last then some ⟨first, last⟩ else none

def without (r s : CodeRange) : List CodeRange :=
  if s.first ≤ r.first && r.last ≤ s.last then []
  else if (r.both? s).isNone then [r]
  else
    (if r.first < s.first then [between r.first (before s.first)] else []) ++
      if s.last < r.last then [between (behind s.last) r.last] else []

/-- Adds a range to ranges that are in order and do not touch. -/
def insertIn (r : CodeRange) : List CodeRange → List CodeRange
  | [] => [r]
  | s :: rest =>
    if r.last + 1 < s.first then r :: s :: rest
    else if s.last + 1 < r.first then s :: insertIn r rest
    else insertIn ⟨min r.first s.first, max r.last s.last⟩ rest

def gaps : List CodeRange → List CodeRange
  | r :: s :: rest => between (behind r.last) (before s.first) :: gaps (s :: rest)
  | _ => []

def otherCase (r : CodeRange) : List CodeRange :=
  ((r.both? ⟨0x61, 0x7A⟩).map fun s => (⟨s.first - 0x20, s.last - 0x20⟩ : CodeRange)).toList ++
    ((r.both? ⟨0x41, 0x5A⟩).map fun s => (⟨s.first + 0x20, s.last + 0x20⟩ : CodeRange)).toList

end CodeRange

structure Codes where
  ranges : List CodeRange := []
  /-- It is known to be closed under exchanging the cases of letters. -/
  folded : Bool := true
  deriving DecidableEq, Repr

def lastCharacter : Nat := 0x10FFFF

def lastByte : Nat := 0xFF

namespace Codes

def ofRanges (ranges : List CodeRange) : Codes :=
  { ranges := ranges.foldl (fun rs r => r.insertIn rs) [], folded := ranges.isEmpty }

def single (c : Char) : Codes := ofRanges [⟨c.toNat, c.toNat⟩]

def push (s : Codes) (r : CodeRange) : Codes := { ranges := r.insertIn s.ranges, folded := false }

def union (s t : Codes) : Codes :=
  if t.ranges.isEmpty || s.ranges = t.ranges then s
  else { ranges := t.ranges.foldl (fun rs r => r.insertIn rs) s.ranges
         folded := s.folded && t.folded }

def both (s t : Codes) : Codes :=
  if s.ranges.isEmpty then s
  else if t.ranges.isEmpty then {}
  else { ranges := s.ranges.flatMap fun r => t.ranges.filterMap r.both?
         folded := s.folded && t.folded }

def onlyFirst (s t : Codes) : Codes :=
  if s.ranges.isEmpty || t.ranges.isEmpty then s
  else { ranges := t.ranges.foldl (fun rs r => rs.flatMap (·.without r)) s.ranges
         folded := s.folded && t.folded }

def onlyOne (s t : Codes) : Codes := (s.union t).onlyFirst (s.both t)

def negate (s : Codes) (top : Nat) : Codes :=
  match s.ranges.head?, s.ranges.getLast? with
  | some first, some last =>
    { s with ranges :=
        (if 0 < first.first then [.between 0 (CodeRange.before first.first)] else []) ++
          CodeRange.gaps s.ranges ++
            if last.last < top then [.between (CodeRange.behind last.last) top] else [] }
  | _, _ => { ranges := [⟨0, top⟩] }

/-- The set with the other case of each ASCII letter. -/
def foldAscii (s : Codes) : Codes :=
  if s.folded then s
  else { ranges := (s.ranges.flatMap CodeRange.otherCase).foldl (fun rs r => r.insertIn rs) s.ranges }

def combine : SetOperation → Codes → Codes → Codes
  | .both => both
  | .onlyFirst => onlyFirst
  | .onlyOne => onlyOne

def isAscii (s : Codes) : Bool := s.ranges.all (·.last < 0x80)

def only? (s : Codes) : Option Char :=
  match s.ranges with
  | [r] => if r.first = r.last then some (.ofNat r.first) else none
  | _ => none

end Codes

def Kind.codes (kind : Kind) : Codes :=
  .ofRanges <| match kind with
    | .alnum => [⟨0x30, 0x39⟩, ⟨0x41, 0x5A⟩, ⟨0x61, 0x7A⟩]
    | .alpha => [⟨0x41, 0x5A⟩, ⟨0x61, 0x7A⟩]
    | .ascii => [⟨0x00, 0x7F⟩]
    | .blank => [⟨0x09, 0x09⟩, ⟨0x20, 0x20⟩]
    | .cntrl => [⟨0x00, 0x1F⟩, ⟨0x7F, 0x7F⟩]
    | .digit => [⟨0x30, 0x39⟩]
    | .graph => [⟨0x21, 0x7E⟩]
    | .lower => [⟨0x61, 0x7A⟩]
    | .print => [⟨0x20, 0x7E⟩]
    | .punct => [⟨0x21, 0x2F⟩, ⟨0x3A, 0x40⟩, ⟨0x5B, 0x60⟩, ⟨0x7B, 0x7E⟩]
    | .space => [⟨0x09, 0x0D⟩, ⟨0x20, 0x20⟩]
    | .upper => [⟨0x41, 0x5A⟩]
    | .word => [⟨0x30, 0x39⟩, ⟨0x41, 0x5A⟩, ⟨0x5F, 0x5F⟩, ⟨0x61, 0x7A⟩]
    | .xdigit => [⟨0x30, 0x39⟩, ⟨0x41, 0x46⟩, ⟨0x61, 0x66⟩]

end BoxOffice.Pattern
