import BoxOffice.Proofs.Script.Grammar
import BoxOffice.Script.Reader
import Mathlib.Logic.Relation
/-!
# What a script asks for

A reservation in a script lists no more seats than its reader allows (`Command.seatCount_ofLine`).
`ScriptReader.Reads` says that a command stands in the part of a script that its reader comes to.
-/

namespace BoxOffice

namespace Command

/-- How many seats are asked for. -/
def seatCount : Command → Nat
  | .reserve _ seats => seats.length
  | _ => 0

theorem Writes.seatCount_le {limit : UInt64} {t : List Char} {c : Command} (h : Writes limit t c) :
    c.seatCount ≤ limit.toNat := by
  cases h with
  | reserve _ _ _ few => exact few
  | create | view | wait | waitThread | list | quit | help => exact Nat.zero_le _

/-- No line asks for more seats than are allowed. -/
theorem seatCount_ofLine (limit : UInt64) (line : String) :
    (ofLine limit line).seatCount ≤ limit.toNat := by
  obtain ⟨-, read⟩ | writes | ⟨-, -, read⟩ := ofLine_cases limit line
  · rw [read]
    exact Nat.zero_le _
  · exact writes.seatCount_le
  · rw [read]
    exact Nat.zero_le _

end Command

namespace ScriptReader

/-- One command is read, which may be any. -/
def Advances (r u : ScriptReader) : Prop := ∃ c, r.next = (.ok c, u)

/-- The reader comes to this command. -/
def Reads (r : ScriptReader) (c : Command) : Prop :=
  ∃ u, Relation.ReflTransGen Advances r u ∧ u.next.1 = .ok c

variable {r u : ScriptReader} {c : Command}

theorem reads_of_next (h : r.next = (.ok c, u)) : r.Reads c :=
  ⟨r, .refl, by rw [h]⟩

theorem Reads.of_advances (h : u.Reads c) (first : r.Advances u) : r.Reads c := by
  obtain ⟨v, later, hc⟩ := h
  exact ⟨v, .head first later, hc⟩

theorem maxSeats_next (r : ScriptReader) : r.next.2.maxSeats = r.maxSeats := by
  unfold next
  split
  · rfl
  · dsimp only
    split <;> rfl

theorem seatCount_next (h : r.next.1 = .ok c) : c.seatCount ≤ r.maxSeats.toNat := by
  unfold next at h
  split at h
  · cases h
    exact Nat.zero_le _
  · dsimp only at h
    split at h
    · cases h
    · cases h
      exact Command.seatCount_ofLine _ _

/-- No command asks for more seats than the reader allows. -/
theorem Reads.seatCount_le (h : r.Reads c) : c.seatCount ≤ r.maxSeats.toNat := by
  obtain ⟨u, later, hc⟩ := h
  have same : u.maxSeats = r.maxSeats := by
    clear hc
    induction later with
    | refl => rfl
    | @tail u v _ step ih =>
      obtain ⟨c, hnext⟩ := step
      have kept := u.maxSeats_next
      rw [hnext] at kept
      exact kept.trans ih
  rw [← same]
  exact seatCount_next hc

end ScriptReader

end BoxOffice
