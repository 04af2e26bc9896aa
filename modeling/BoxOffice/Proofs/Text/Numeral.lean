import BoxOffice.Proofs.Text.Words
import BoxOffice.Text.Decimal
import Mathlib.Data.List.Induction
/-!
# Numerals

`Digits` says which number a run of decimal digits writes, and `Numeral` the same where a plus sign
may stand in front.  The readers of numbers read these and nothing else (`word32?_eq_some_iff`,
`word64?_eq_some_iff`), and numbers are written so (`digits_toString`).
-/

namespace BoxOffice.Text

/-- One or more digits, and the number that they write. -/
inductive Digits : List Char → Nat → Prop
  | one {d : Char} (digit : d.isDigit = true) : Digits [d] (d.toNat - '0'.toNat)
  | more {cs : List Char} {n : Nat} {d : Char} (front : Digits cs n) (digit : d.isDigit = true) :
      Digits (cs ++ [d]) (10 * n + (d.toNat - '0'.toNat))

/-- One or more digits after at most one plus sign, and the number that they write. -/
inductive Numeral : List Char → Nat → Prop
  | plain {cs : List Char} {n : Nat} (digits : Digits cs n) : Numeral cs n
  | signed {cs : List Char} {n : Nat} (digits : Digits cs n) : Numeral ('+' :: cs) n

variable {cs : List Char} {n : Nat}

/-! ## What stands in a numeral -/

theorem Digits.ne_nil (h : Digits cs n) : cs ≠ [] := by
  cases h with
  | one => exact List.cons_ne_nil _ _
  | more => exact List.concat_ne_nil _ _

theorem Digits.digit (h : Digits cs n) : ∀ c ∈ cs, c.isDigit = true := by
  induction h with
  | one digit => exact List.forall_mem_singleton.2 digit
  | more _ digit ih => exact List.forall_mem_append.2 ⟨ih, List.forall_mem_singleton.2 digit⟩

theorem Numeral.ne_nil (h : Numeral cs n) : cs ≠ [] := by
  cases h with
  | plain digits => exact digits.ne_nil
  | signed => exact List.cons_ne_nil _ _

theorem Numeral.plus_or_digit (h : Numeral cs n) : ∀ c ∈ cs, c = '+' ∨ c.isDigit = true := by
  cases h with
  | plain digits => exact fun c hc => .inr (digits.digit c hc)
  | signed digits => exact List.forall_mem_cons.2 ⟨.inl rfl, fun c hc => .inr (digits.digit c hc)⟩

theorem isBlank_of_isDigit {c : Char} (h : c.isDigit = true) : isBlank c = false := by
  have range : 48 ≤ c.toNat ∧ c.toNat ≤ 57 := by
    simpa [Char.isDigit, UInt32.le_iff_toNat_le] using h
  simp only [isBlank, Bool.or_eq_false_iff, Bool.and_eq_false_iff, decide_eq_false_iff_not,
    beq_eq_false_iff_ne]
  omega

theorem Numeral.solid (h : Numeral cs n) : Solid cs := by
  intro c hc
  rcases h.plus_or_digit c hc with rfl | digit
  · decide
  · exact isBlank_of_isDigit digit

theorem Numeral.isWord (h : Numeral cs n) : IsWord cs := ⟨h.ne_nil, h.solid⟩

theorem Numeral.comma_notMem (h : Numeral cs n) : ',' ∉ cs := by
  intro comma
  rcases h.plus_or_digit ',' comma with same | digit
  · cases same
  · cases digit

/-! ## Reading -/

theorem valueOfDigits_concat (cs : List Char) (d : Char) :
    valueOfDigits (cs ++ [d]) = 10 * valueOfDigits cs + (d.toNat - '0'.toNat) := by
  unfold valueOfDigits
  rw [List.foldl_append]
  rfl

theorem digits_valueOfDigits (ne_nil : cs ≠ []) (digit : ∀ c ∈ cs, c.isDigit = true) :
    Digits cs (valueOfDigits cs) := by
  induction cs using List.reverseRecOn with
  | nil => exact absurd rfl ne_nil
  | append_singleton cs d ih =>
    obtain ⟨front, last⟩ := List.forall_mem_append.1 digit
    have last := last d List.mem_cons_self
    by_cases none : cs = []
    · subst none
      have value : valueOfDigits ([] ++ [d]) = d.toNat - '0'.toNat := by
        rw [valueOfDigits_concat]
        exact Nat.zero_add _
      rw [value]
      exact .one last
    · rw [valueOfDigits_concat]
      exact .more (ih none front) last

theorem Digits.value (h : Digits cs n) : valueOfDigits cs = n := by
  induction h with
  | one digit => exact Nat.zero_add _
  | more _ _ ih => rw [valueOfDigits_concat, ih]

theorem digitsValue?_iff : digitsValue? cs = some n ↔ Digits cs n := by
  rw [digitsValue?_eq_some_iff]
  constructor
  · rintro ⟨ne_nil, digit, rfl⟩
    exact digits_valueOfDigits ne_nil digit
  · intro h
    exact ⟨h.ne_nil, h.digit, h.value.symm⟩

theorem numeral?_eq_some_iff : numeral? cs = some n ↔ Numeral cs n := by
  unfold numeral?
  split
  · rename_i cs
    rw [digitsValue?_iff]
    constructor
    · exact .signed
    · rintro (digits | digits)
      · cases digits.digit '+' List.mem_cons_self
      · exact digits
  · rename_i unsigned
    rw [digitsValue?_iff]
    constructor
    · exact .plain
    · rintro (digits | digits)
      · exact digits
      · exact absurd rfl (unsigned _)

theorem word32?_eq_some_iff {v : UInt32} : word32? cs = some v ↔ Numeral cs v.toNat := by
  unfold word32?
  rw [Option.bind_eq_some_iff]
  constructor
  · rintro ⟨n, read, fits⟩
    split at fits
    · cases fits
      rw [UInt32.toNat_ofNatLT]
      exact numeral?_eq_some_iff.1 read
    · cases fits
  · intro h
    refine ⟨v.toNat, numeral?_eq_some_iff.2 h, ?_⟩
    rw [dif_pos v.toNat_lt]
    simp

theorem word64?_eq_some_iff {v : UInt64} : word64? cs = some v ↔ Numeral cs v.toNat := by
  unfold word64?
  rw [Option.bind_eq_some_iff]
  constructor
  · rintro ⟨n, read, fits⟩
    split at fits
    · cases fits
      rw [UInt64.toNat_ofNatLT]
      exact numeral?_eq_some_iff.1 read
    · cases fits
  · intro h
    refine ⟨v.toNat, numeral?_eq_some_iff.2 h, ?_⟩
    rw [dif_pos v.toNat_lt]
    simp

/-! ## Writing -/

theorem isDigit_digitChar {n : Nat} (h : n < 10) :
    n.digitChar.isDigit = true ∧ n.digitChar.toNat - '0'.toNat = n := by
  have each : ∀ n < 10, n.digitChar.isDigit = true ∧ n.digitChar.toNat - '0'.toNat = n := by decide
  exact each n h

/-- A number is written in digits that have its value. -/
theorem digits_toString (n : Nat) : Digits (toString n).toList n := by
  have written : ∀ n, (toString n).toList = Nat.toDigits 10 n := fun _ => String.toList_ofList
  rw [written]
  induction n using Nat.strongRecOn with
  | ind n ih =>
    rw [Nat.toDigits_eq_if (by decide)]
    split
    · rename_i small
      obtain ⟨digit, value⟩ := isDigit_digitChar small
      have one := Digits.one digit
      rwa [value] at one
    · rename_i large
      obtain ⟨digit, value⟩ := isDigit_digitChar (Nat.mod_lt n (show 0 < 10 by decide))
      have more := Digits.more (ih (n / 10) (by omega)) digit
      rwa [value, Nat.div_add_mod] at more

theorem word32?_toString (n : UInt32) : word32? (toString n.toNat).toList = some n :=
  word32?_eq_some_iff.2 (.plain (digits_toString n.toNat))

end BoxOffice.Text
