/-!
# Decimal numbers

`digitsValue?` reads a run of ASCII digits, `numeral?` the same after an optional `+`.  `word32?`
and `word64?` also ask that the value fits the width.  `inBase` writes a number with the fewest digits.
Main law: `digitsValue?_eq_some_iff`, which says which texts are read and as what.
-/

namespace BoxOffice.Text

/-- ASCII digits only: no other script has digits in the numbers read here. -/
def isDigit (c : Char) : Bool := '0' ≤ c && c ≤ '9'

/-- The number that a run of digits writes, most significant digit first. -/
def valueOfDigits (cs : List Char) : Nat :=
  cs.foldl (fun n c => 10 * n + (c.toNat - '0'.toNat)) 0

def digitsValue? (cs : List Char) : Option Nat :=
  if !cs.isEmpty && cs.all isDigit then some (valueOfDigits cs) else none

/-- One or more digits, after at most one `+`. -/
def numeral? : List Char → Option Nat
  | '+' :: cs => digitsValue? cs
  | cs => digitsValue? cs

def word32? (cs : List Char) : Option UInt32 :=
  (numeral? cs).bind fun n => if h : n < UInt32.size then some (UInt32.ofNatLT n h) else none

def word64? (cs : List Char) : Option UInt64 :=
  (numeral? cs).bind fun n => if h : n < UInt64.size then some (UInt64.ofNatLT n h) else none

def digitChar (d : Nat) : Char := Nat.digitChar d

/-- The digits of a number in a base, fewest possible. -/
def inBase (base n : Nat) : String := String.ofList (Nat.toDigits base n)

def hexOfByte (b : UInt8) : String :=
  String.ofList [digitChar (b.toNat / 16), digitChar (b.toNat % 16)]

theorem digitsValue?_eq_some_iff {cs : List Char} {n : Nat} :
    digitsValue? cs = some n ↔ cs ≠ [] ∧ (∀ c ∈ cs, isDigit c) ∧ n = valueOfDigits cs := by
  simp only [digitsValue?, Bool.and_eq_true, Bool.not_eq_true', List.isEmpty_eq_false_iff,
    List.all_eq_true, Option.ite_none_right_eq_some, Option.some.injEq, and_assoc]
  constructor <;> rintro ⟨h1, h2, rfl⟩ <;> exact ⟨h1, h2, rfl⟩

end BoxOffice.Text
