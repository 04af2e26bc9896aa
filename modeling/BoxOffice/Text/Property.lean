/-!
# Properties of code points

A property of code points can be kept as the list of the code points where it changes, in
increasing order, starting from "does not hold" at 0.  `holdsAt` says whether it holds.
-/

namespace BoxOffice.Text

/-- Whether a property holds at `n`, given where it changes. -/
def holdsAt (changes : List Nat) (n : Nat) : Bool := changes.countP (· ≤ n) % 2 == 1

/-! ## Small laws -/

theorem holdsAt_nil (n : Nat) : holdsAt [] n = false := rfl

/-- At and behind the first change, the property is what it is not by the later changes. -/
theorem holdsAt_cons (c : Nat) (changes : List Nat) (n : Nat) :
    holdsAt (c :: changes) n = (holdsAt changes n != decide (c ≤ n)) := by
  unfold holdsAt
  rw [List.countP_cons]
  by_cases h : c ≤ n
  · have := Nat.mod_two_eq_zero_or_one (changes.countP (· ≤ n))
    rcases this with e | e <;> simp [h, Nat.add_mod, e]
  · simp [h]

end BoxOffice.Text
