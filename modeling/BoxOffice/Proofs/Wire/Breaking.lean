import BoxOffice.Proofs.Stream.Breaking
import BoxOffice.Proofs.Wire.Request
/-!
# Requests that are broken off

A stream may be closed within a request: after its opcode, within a field, within the seats of a
reservation or of one that is thrown away.  A request of which a part is missing is never decoded
(`Request.breaks_decode`, `Request.breaks_reserve`); the fault says that the stream was closed.
-/

namespace BoxOffice

open Source

variable [Platform]

theorem Source.breaks_fields {α : Type} {order : ByteOrder} (take : Attempt Frame α)
    {bs : List UInt8} {length : Nat} (hlength : bs.length = length)
    (memory : Memory.refusal? length 1 = none) : Breaks (fields order length take) bs := by
  subst hlength
  intro quiet s part rest left initial proper gives closed
  obtain ⟨got, wanted, short, run⟩ :=
    breaks_exactly bs quiet s part rest left initial proper gives closed
  have stopped : frame order bs.length s = (.error (.transport (.closedAfter got wanted)), left) := by
    unfold frame
    rw [memory]
    exact Attempt.run_bind_error run
  refine ⟨got, wanted, short, ?_⟩
  show fields order bs.length take s = _
  unfold fields
  rw [stopped]

namespace Request

variable (order : ByteOrder) {maxSeats : UInt64}

/-- Seats that are missing are missed, whether they are wanted or to be thrown away. -/
theorem breaks_decodeSeats {seats : List Seat} (countable : Countable seats)
    (memory : seats.length ≤ maxSeats.toNat →
      Memory.refusal? (seats.length * seatWidth) 1 = none) :
    Breaks (decodeSeats order maxSeats (UInt64.ofNat seats.length)) (coordinates order seats) := by
  have count := toNat_length countable
  have length := length_coordinates order seats
  unfold decodeSeats
  dsimp only
  rw [count, if_neg (Nat.not_le.2 countable)]
  split
  · have drained := breaks_skip (coordinates order seats)
    rw [length] at drained
    exact drained.andThen _
  · rename_i few
    rw [UInt64.lt_iff_toNat_lt, count, Nat.not_lt] at few
    exact breaks_fields _ length (memory few)

theorem breaks_reserve (id : UInt32) {seats : List Seat} (countable : Countable seats)
    (memory : seats.length ≤ maxSeats.toNat →
      Memory.refusal? (seats.length * seatWidth) 1 = none) :
    Breaks (decode order maxSeats .reserve) ((Request.reserve id seats).body order) := by
  rw [body_reserve]
  have header : Breaks (fields order 12 do return (← Frame.word32, ← Frame.word64))
      (order.word32 id ++ order.word64 (UInt64.ofNat seats.length)) :=
    breaks_fields _ (by simp) (Memory.refusal?_of_fixed (by decide))
  exact header.bind (consumes_header order id _)
    ((breaks_decodeSeats order countable memory).andThen _)

/-- A request that was encoded is not decoded from part of its bytes. -/
theorem breaks_decode {m : Request} (fits : m.Fits maxSeats) :
    Breaks (decode order maxSeats m.opcode) (m.body order) := by
  cases m with
  | create id rows cols => exact breaks_fields _ (by simp [body]) (Memory.refusal?_of_fixed (by decide))
  | reserve id seats =>
    obtain ⟨-, memory⟩ := fits
    exact breaks_reserve order id (countable_of_memory memory) fun _ => memory
  | view id => exact breaks_fields _ (by simp [body]) (Memory.refusal?_of_fixed (by decide))
  | list | quit => exact breaks_nil _

end Request

end BoxOffice
