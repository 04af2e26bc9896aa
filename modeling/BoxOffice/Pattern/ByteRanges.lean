import BoxOffice.Pattern.Codes
/-!
# Ranges of characters as ranges of bytes

The UTF-8 forms of the characters from one to another are not all byte sequences between two, but they
are those of a few rows of byte ranges.  `byteRows` gives these rows: each stands for all the sequences
with a byte of each of its ranges, and no sequence is in two of them.
-/

namespace BoxOffice.Pattern

def utf8Bytes (code : Nat) : List Nat :=
  let tail (n : Nat) : Nat := 0x80 + n % 0x40
  if code < 0x80 then [code]
  else if code < 0x800 then [0xC0 + code / 0x40, tail code]
  else if code < 0x10000 then [0xE0 + code / 0x1000, tail (code / 0x40), tail code]
  else [0xF0 + code / 0x40000, tail (code / 0x1000), tail (code / 0x40), tail code]

def lastOfSize : List Nat := [0x7F, 0x7FF, 0xFFFF]

/-- Where to cut a range because some but not all of a block of `size` code points are at its front or at
its back; the first part ends with the code point that is given. -/
def blockCut? (first last size : Nat) : Option Nat :=
  if first / size = last / size then none
  else if first % size ≠ 0 then some (first / size * size + size - 1)
  else if last % size ≠ size - 1 then some (last / size * size - 1)
  else none

/-- Where to cut a range that is not a single row. -/
def cut? (first last : Nat) : Option Nat :=
  match lastOfSize.find? fun n => first ≤ n && n < last with
  | some n => some n
  | none => if last < 0x80 then none else [0x40, 0x1000, 0x40000].findSome? (blockCut? first last)

/-- The rows of a range in which all code points are characters. -/
def rowsFrom (first last : Nat) : List (List CodeRange) :=
  match cut? first last with
  | some n =>
    if first ≤ n ∧ n < last then rowsFrom first n ++ rowsFrom (n + 1) last else []
  | none => [((utf8Bytes first).zip (utf8Bytes last)).map fun (a, b) => ⟨a, b⟩]
termination_by last - first

def CodeRange.byteRows (r : CodeRange) : List (List CodeRange) :=
  if r.first < 0xE000 && 0xD7FF < r.last then rowsFrom r.first 0xD7FF ++ rowsFrom 0xE000 r.last
  else rowsFrom r.first r.last

def Codes.byteRows (s : Codes) : List (List CodeRange) := s.ranges.flatMap (·.byteRows)

end BoxOffice.Pattern
