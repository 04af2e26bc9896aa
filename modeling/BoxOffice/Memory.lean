import BoxOffice.Fault
import BoxOffice.Platform
/-!
# Memory

A request for memory is answered by the platform from its size alone, except that above `2 ^ 63 - 1`
bytes no block can exist.
-/

namespace BoxOffice.Memory

variable [Platform]

/-- The size in bytes that no block can exceed. -/
def largestBlock : Nat := 0x7FFF_FFFF_FFFF_FFFF

/-- Why `count` elements of `width` bytes each are not given, `none` when they are. -/
def refusal? (count width : Nat) : Option MemoryFault :=
  if largestBlock < count * width then some .tooLarge
  else if Platform.gives (count * width) then none
  else some .refused

/-- Why the list of so many events does not grow, `none` when it does. -/
def growth? (events : Nat) : Option MemoryFault :=
  if Platform.grows events then none else some .refused

theorem refusal?_eq_none_iff {count width : Nat} :
    refusal? count width = none ↔
      count * width ≤ largestBlock ∧ Platform.gives (count * width) = true := by
  unfold refusal?
  by_cases large : largestBlock < count * width
  · simp [large, Nat.not_le.2 large]
  · by_cases granted : Platform.gives (count * width) = true
    · simp [large, granted, Nat.not_lt.1 large]
    · simp [large, granted]

/-- Where more is given, less is given too. -/
theorem refusal?_of_le {count width more wider : Nat} (h : refusal? more wider = none)
    (le : count * width ≤ more * wider) : refusal? count width = none := by
  obtain ⟨possible, granted⟩ := refusal?_eq_none_iff.1 h
  exact refusal?_eq_none_iff.2 ⟨Nat.le_trans le possible, Platform.gives_of_le le granted⟩

/-- For frames of fixed length there is always memory. -/
theorem refusal?_of_fixed {length : Nat} (short : length ≤ longestFixedFrame) :
    refusal? length 1 = none := by
  rw [refusal?_eq_none_iff, Nat.mul_one]
  exact ⟨Nat.le_trans short (by decide), Platform.gives_of_le short Platform.gives_fixed⟩

theorem lt_size_of_refusal? {count width : Nat} (h : refusal? count width = none) :
    count * width < UInt64.size :=
  Nat.lt_of_le_of_lt (refusal?_eq_none_iff.1 h).1 (by decide)

theorem growth?_eq_none_iff {events : Nat} :
    growth? events = none ↔ Platform.grows events = true := by
  unfold growth?
  by_cases granted : Platform.grows events = true
  · simp [granted]
  · simp [granted]

end BoxOffice.Memory
