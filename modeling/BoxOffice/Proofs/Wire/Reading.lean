import BoxOffice.Proofs.Stream.Pieces
import BoxOffice.Wire.Request
/-!
# All that can be read

Whoever reads messages from a stream does so by opcodes, frames and bytes that are thrown away.  A
`Reading` is one of these; `Reading.answerAll` makes some of them one after the other, and goes on
after one that has failed.  None of them shows in what pieces the bytes have come
(`Reading.answerAll_of_sameBytes`), and so neither does a request (`Request.seamless_decode`).
-/

namespace BoxOffice

open Source

/-! ## Frames -/

namespace Source

variable [Platform]

theorem seamless_frame (order : ByteOrder) (length : Nat) : Seamless (frame order length) := by
  unfold frame
  split
  · exact .fail _
  · exact (seamless_exactly length).bind fun _ => .pure _

theorem seamless_fields {α : Type} (order : ByteOrder) (length : Nat) (take : Attempt Frame α) :
    Seamless (fields order length take) := by
  intro s t h
  rcases hs : frame order length s with ⟨answer, u⟩
  obtain ⟨v, ht, left⟩ := (seamless_frame order length).exists_rest h hs
  unfold Attempt.run fields
  rw [hs, ht]
  cases answer with
  | error fault => exact ⟨rfl, left⟩
  | ok f => exact ⟨rfl, left⟩

end Source

/-! ## Single readings -/

/-- What can be asked of a stream of messages. -/
inductive Reading where
  /-- The byte that a message begins with. -/
  | opcode
  /-- A frame of so many bytes, from which fields are then taken. -/
  | frame (length : Nat) (fields : List FieldType)
  /-- To throw so many bytes away. -/
  | skip (count : Nat)
  deriving DecidableEq, Repr

namespace Reading

/-- What a reading gives. -/
inductive Answer where
  | opcode (b? : Option UInt8)
  | frame (fields : List (Except Fault Field))
  | skipped

variable [Platform]

/-- What each of some fields gives, taken from what the one before it has left. -/
def takeAll : List FieldType → Frame → List (Except Fault Field)
  | [], _ => []
  | type :: types, f =>
    let (field, rest) := type.take f
    field :: takeAll types rest

/-- Makes the reading. -/
def answer (order : ByteOrder) : Reading → Attempt Source Answer
  | .opcode => do return .opcode (← byte?)
  | .frame length types => do return .frame (takeAll types (← Source.frame order length))
  | .skip count => do
    Source.skip count
    return .skipped

/-- Makes readings in order, whatever comes of each. -/
def answerAll (order : ByteOrder) : List Reading → Source → List (Except Fault Answer) × Source
  | [], s => ([], s)
  | r :: rs, s =>
    let (a, s) := r.answer order s
    let (as, s) := answerAll order rs s
    (a :: as, s)

theorem seamless_answer (order : ByteOrder) (r : Reading) : Seamless (r.answer order) := by
  cases r with
  | opcode => exact seamless_byte?.bind fun _ => .pure _
  | frame length types => exact (seamless_frame order length).bind fun _ => .pure _
  | skip count => exact (seamless_skip count).bind fun _ => .pure _

theorem answerAll_of_sameBytes (order : ByteOrder) (rs : List Reading) {s t : Source}
    (h : SameBytes s t) :
    (answerAll order rs s).1 = (answerAll order rs t).1 ∧
      SameBytes (answerAll order rs s).2 (answerAll order rs t).2 := by
  induction rs generalizing s t with
  | nil => exact ⟨rfl, h⟩
  | cons r rs ih =>
    obtain ⟨first, left⟩ := seamless_answer order r s t h
    obtain ⟨others, left'⟩ := ih left
    refine ⟨?_, left'⟩
    show (r.answer order s).1 :: (answerAll order rs (r.answer order s).2).1 =
      (r.answer order t).1 :: (answerAll order rs (r.answer order t).2).1
    exact congr (congrArg List.cons first) others

end Reading

/-! ## Requests -/

namespace Request

variable [Platform]

theorem seamless_decodeSeats (order : ByteOrder) (maxSeats count : UInt64) :
    Seamless (decodeSeats order maxSeats count) := by
  unfold decodeSeats
  dsimp only
  split
  · exact .fail _
  · split
    · exact (seamless_skip _).bind fun _ => .fail _
    · exact seamless_fields _ _ _

theorem seamless_decode (order : ByteOrder) (maxSeats : UInt64) (op : Opcode) :
    Seamless (decode order maxSeats op) := by
  cases op with
  | create | view => exact seamless_fields _ _ _
  | reserve =>
    exact (seamless_fields _ _ _).bind fun _ => (seamless_decodeSeats _ _ _).bind fun _ => .pure _
  | list | quit => exact .pure _
  | setup => exact .fail _

end Request

end BoxOffice
