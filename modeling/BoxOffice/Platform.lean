/-!
# The machine underneath

The office leaves two things to the machine that it runs on: which byte of a number stands first where
nothing is said about it, and which requests for memory are granted.  These are answered from what is
asked for alone.
-/

namespace BoxOffice

/-- The length in bytes of the longest frame of fixed length. -/
def longestFixedFrame : Nat := 80

class Platform where
  /-- Whether the least significant byte of a number stands first. -/
  littleEndian : Bool
  /-- Whether a block of so many bytes is granted. -/
  gives : Nat → Bool
  /-- Whether the list of so many events is granted room for one more. -/
  grows : Nat → Bool
  /-- Without the shortest frames no message at all is received. -/
  gives_fixed : gives longestFixedFrame = true
  gives_of_le : ∀ {m n : Nat}, m ≤ n → gives n = true → gives m = true
  /-- A list that has grown has a block with eight bytes for each event, and there are no more events
  than identifiers. -/
  gives_of_grows : ∀ {n : Nat}, n < UInt32.size → grows n = true → gives (8 * (n + 1)) = true

namespace Platform

/-- Room for one more event is granted alike to all lists of up to `most` events. -/
def GrowsAlike [Platform] (most : Nat) : Prop := ∀ m n : Nat, m ≤ most → n ≤ most → grows m = grows n

/-- A machine on which the low byte stands first and blocks of `2 ^ 55` bytes or more are never
granted. -/
@[reducible] def x86_64 : Platform where
  littleEndian := true
  gives n := decide (n < 0x80_0000_0000_0000)
  grows _ := true
  gives_fixed := by decide
  gives_of_le := by
    intro m n le granted
    exact decide_eq_true (Nat.lt_of_le_of_lt le (of_decide_eq_true granted))
  gives_of_grows := by
    intro n few _
    have fewer : n < 0x1_0000_0000 := few
    exact decide_eq_true (by omega)

end Platform

end BoxOffice
