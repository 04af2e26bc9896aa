import BoxOffice.Proofs.Stream.Spending
import BoxOffice.Wire.Frame
/-!
# What was taken from frames

A number that was taken from a frame stood there as it would be written (`Frame.spends_word32`,
`Frame.spends_word64`, `Frame.spends_int32`), and so did the numbers of an array, one behind the
other (`Frame.spends_many`).  If the fields are as long as the frame, what was received is their bytes
(`Source.spends_fields`).
-/

namespace BoxOffice

namespace ByteOrder

variable (order : ByteOrder) {bs : List UInt8}

variable [Platform]

/-- Any four bytes are written for the number that they are read as. -/
theorem word32_read (length : bs.length = 4) : order.word32 (UInt32.ofNat (order.read bs)) = bs := by
  have small : order.read bs < UInt32.size := by
    have := order.read_lt bs
    rwa [length] at this
  unfold word32
  rw [UInt32.toNat_ofNat_of_lt' small, ← length, order.write_read]

/-- Any eight bytes are written for the number that they are read as. -/
theorem word64_read (length : bs.length = 8) : order.word64 (UInt64.ofNat (order.read bs)) = bs := by
  have small : order.read bs < UInt64.size := by
    have := order.read_lt bs
    rwa [length] at this
  unfold word64
  rw [UInt64.toNat_ofNat_of_lt' small, ← length, order.write_read]

end ByteOrder

namespace Frame

/-- These bytes are still to be taken, and numbers are in this order. -/
def Holds (order : ByteOrder) (f : Frame) (bs : List UInt8) : Prop := f = { order, bytes := bs }

variable {order : ByteOrder}

theorem spends_raw (width : Nat) :
    Attempt.Spends (Holds order) (raw width) fun bs piece => bs = piece ∧ piece.length = width := by
  rintro f piece g whole h rfl
  unfold Attempt.run raw at h
  dsimp only at h
  split at h
  · cases h
  · rename_i enough
    cases h
    have most := List.length_take_le width whole
    exact ⟨whole.take width, whole.drop width, (List.take_append_drop width whole).symm, rfl, rfl,
      by omega⟩

variable [Platform]

theorem spends_number (width : Nat) :
    Attempt.Spends (Holds order) (number width) fun bs n => bs.length = width ∧ n = order.read bs := by
  rintro f n g whole h rfl
  unfold Attempt.run number at h
  split at h
  · rename_i piece rest e
    cases h
    obtain ⟨bs, left, split, hg, rfl, length⟩ := spends_raw width _ piece _ whole e rfl
    exact ⟨bs, left, split, hg, length, rfl⟩
  · cases h

theorem spends_word32 : Attempt.Spends (Holds order) word32 fun bs n => bs = order.word32 n := by
  refine (spends_number 4).map ?_
  rintro bs n ⟨length, rfl⟩
  exact (order.word32_read length).symm

theorem spends_word64 : Attempt.Spends (Holds order) word64 fun bs n => bs = order.word64 n := by
  refine (spends_number 8).map ?_
  rintro bs n ⟨length, rfl⟩
  exact (order.word64_read length).symm

theorem spends_int32 : Attempt.Spends (Holds order) int32 fun bs n => bs = order.int32 n :=
  spends_word32.map fun _ _ h => h

variable {α : Type} {take : Attempt Frame α} {put : α → List UInt8}

omit [Platform] in
/-- The values that were taken before stand in front, with the bytes they were taken from. -/
theorem spends_manyAfter (each : Attempt.Spends (Holds order) take fun bs a => bs = put a)
    (count : Nat) (before : List α) :
    Attempt.Spends (Holds order) (manyAfter take count before) fun bs as =>
      ∃ more, as = before.reverse ++ more ∧ bs = more.flatMap put ∧ more.length = count := by
  induction count generalizing before with
  | zero =>
    rintro f as g whole ⟨⟩ hf
    exact ⟨[], whole, rfl, hf, [], (List.append_nil _).symm, rfl, rfl⟩
  | succ count ih =>
    intro f as g whole h hf
    unfold Attempt.run manyAfter at h
    split at h
    · rename_i a f' e
      obtain ⟨_, left, rfl, hf', rfl⟩ := each f a f' whole e hf
      obtain ⟨bs, rest, rfl, hg, more, rfl, rfl, length⟩ := ih (a :: before) f' as g left h hf'
      refine ⟨_, rest, (List.append_assoc ..).symm, hg, a :: more, ?_, rfl, ?_⟩
      · rw [List.reverse_cons, List.append_assoc, List.singleton_append]
      · rw [List.length_cons, length]
    · cases h

theorem spends_many (each : Attempt.Spends (Holds order) take fun bs a => bs = put a)
    (width count : Nat) :
    Attempt.Spends (Holds order) (many take width count) fun bs as =>
      bs = as.flatMap put ∧ as.length = count := by
  unfold many
  split
  · exact Attempt.spends_fail _
  · refine (spends_manyAfter each count []).mono ?_
    rintro bs as ⟨more, rfl, rfl, length⟩
    exact ⟨rfl, length⟩

end Frame

namespace Source

variable {order : ByteOrder} {α : Type} {take : Attempt Frame α} {p : List UInt8 → α → Prop}
  {length : Nat}

variable [Platform]

theorem spends_frame (order : ByteOrder) (length : Nat) :
    Attempt.Spends Holds (frame order length) fun bs f =>
      Frame.Holds order f bs ∧ bs.length = length ∧ Memory.refusal? length 1 = none := by
  unfold frame
  split
  · exact Attempt.spends_fail _
  · rename_i memory
    refine (spends_exactly length).map ?_
    rintro bs got ⟨rfl, full⟩
    exact ⟨rfl, full, memory⟩

/-- Fields that are as long as their frame leave nothing of it, and memory was there for it. -/
theorem spends_fields (ht : Attempt.Spends (Frame.Holds order) take p)
    (width : ∀ bs a, p bs a → bs.length = length) :
    Attempt.Spends Holds (fields order length take) fun bs a =>
      p bs a ∧ Memory.refusal? length 1 = none := by
  intro s a t whole h hs
  unfold Attempt.run fields at h
  split at h
  · rename_i f rest e
    obtain ⟨taken, rfl⟩ := Prod.mk.inj h
    obtain ⟨bs, left, split, ht', holds, full, memory⟩ := spends_frame order length s f rest whole e hs
    obtain ⟨front, back, rfl, -, fields⟩ := ht f a _ bs (Prod.ext taken rfl) holds
    have exact := width front a fields
    have nothing : back = [] := by
      refine List.eq_nil_of_length_eq_zero ?_
      rw [List.length_append] at full
      omega
    rw [nothing, List.append_nil] at split
    exact ⟨front, left, split, ht', fields, memory⟩
  · cases h

end Source

end BoxOffice
