import BoxOffice.Proofs.Wire.Frame
import BoxOffice.Wire.Request
/-!
# Requests on the wire

Decoding a request consumes the bytes it was encoded in and gives the request back
(`Request.consumes_decode`).  A reservation of too many seats is consumed as well, to its last byte,
and is then a fault (`Request.consumes_decode_oversized`).
-/

namespace BoxOffice

theorem length_flatMap_of_forall {α : Type} {put : α → List UInt8} {width : Nat}
    (each : ∀ a, (put a).length = width) (as : List α) :
    (as.flatMap put).length = as.length * width := by
  induction as with
  | nil => simp
  | cons a as ih =>
    rw [List.flatMap_cons, List.length_append, each, ih, List.length_cons, Nat.add_mul]
    omega

theorem Opcode.ofByte_byte (op : Opcode) : ofByte op.byte = .ok op := by
  unfold ofByte
  rw [ofByte?_byte]

theorem Opcode.byte_of_ofByte {b : UInt8} {op : Opcode} (h : ofByte b = .ok op) : op.byte = b := by
  unfold ofByte at h
  split at h
  · rename_i op' found
    cases h
    exact byte_of_ofByte? found
  · cases h

namespace Request

/-- How many seats are asked for. -/
def seatCount : Request → Nat
  | .reserve _ seats => seats.length
  | _ => 0

variable [Platform]

/-- A session that takes so many seats, and has memory for these, takes the request. -/
def Fits (maxSeats : UInt64) (m : Request) : Prop :=
  m.seatCount ≤ maxSeats.toNat ∧ Memory.refusal? (m.seatCount * seatWidth) 1 = none

/-- Where there is memory for all the seats that a session takes, there is for those of a request. -/
theorem fits_of_seatCount {maxSeats : UInt64} {m : Request} (few : m.seatCount ≤ maxSeats.toNat)
    (memory : Memory.refusal? maxSeats.toNat seatWidth = none) : m.Fits maxSeats := by
  refine ⟨few, Memory.refusal?_of_le memory ?_⟩
  rw [Nat.mul_one]
  exact Nat.mul_le_mul_right _ few

/-- There is a number of 64 bits for the bytes of the seats, as there is for all the seats that a
block of memory can hold. -/
def Countable (seats : List Seat) : Prop := seats.length * seatWidth < UInt64.size

instance (seats : List Seat) : Decidable (Countable seats) := inferInstanceAs (Decidable (_ < _))

theorem countable_of_memory {seats : List Seat}
    (h : Memory.refusal? (seats.length * seatWidth) 1 = none) : Countable seats := by
  have bound := Memory.lt_size_of_refusal? h
  rwa [Nat.mul_one] at bound

omit [Platform] in
theorem toNat_length {seats : List Seat} (h : Countable seats) :
    (UInt64.ofNat seats.length).toNat = seats.length := by
  unfold Countable seatWidth at h
  exact UInt64.toNat_ofNat_of_lt' (by omega)

section

variable (order : ByteOrder)

/-- The coordinates of some seats, all rows before all columns. -/
def coordinates (seats : List Seat) : List UInt8 :=
  seats.flatMap (fun seat => order.word64 seat.row) ++
    seats.flatMap (fun seat => order.word64 seat.col)

theorem body_reserve (id : UInt32) (seats : List Seat) :
    (Request.reserve id seats).body order =
      (order.word32 id ++ order.word64 (UInt64.ofNat seats.length)) ++ coordinates order seats :=
  List.append_assoc ..

theorem length_coordinates (seats : List Seat) :
    (coordinates order seats).length = seats.length * seatWidth := by
  unfold coordinates seatWidth
  rw [List.length_append, length_flatMap_of_forall (fun _ => order.length_word64 _),
    length_flatMap_of_forall (fun _ => order.length_word64 _)]
  omega

theorem takes_takeSeats {seats : List Seat} (memory : Memory.refusal? seats.length 8 = none) :
    Frame.Takes order (takeSeats seats.length) (coordinates order seats) seats := by
  have column : ∀ f : Seat → UInt64, Frame.Takes order (Frame.many Frame.word64 8 seats.length)
      (seats.flatMap fun seat => order.word64 (f seat)) (seats.map f) := by
    intro f
    have listed : Frame.Takes order (Frame.many Frame.word64 8 (seats.map f).length) _ _ :=
      Frame.takes_many order (Frame.takes_word64 order) (seats.map f) (by rwa [List.length_map])
    rwa [List.length_map, List.flatMap_map] at listed
  have zipped : List.zipWith Seat.mk (seats.map (·.row)) (seats.map (·.col)) = seats := by
    rw [List.zipWith_map, List.zipWith_self]
    exact List.map_id' seats
  refine (column (·.row)).bind ((column (·.col)).map ?_)
  rw [zipped]
  exact Frame.takes_pure seats

open Source

theorem consumes_decodeSeats {maxSeats : UInt64} {seats : List Seat}
    (fits : seats.length ≤ maxSeats.toNat)
    (memory : Memory.refusal? (seats.length * seatWidth) 1 = none) :
    Consumes (decodeSeats order maxSeats (UInt64.ofNat seats.length)) (coordinates order seats)
      (.ok seats) := by
  have countable := countable_of_memory memory
  have count := toNat_length countable
  have columns : Memory.refusal? seats.length 8 = none := by
    refine Memory.refusal?_of_le memory ?_
    unfold seatWidth
    omega
  unfold decodeSeats
  dsimp only
  rw [count, if_neg (Nat.not_le.2 countable), if_neg]
  · exact consumes_fields (length_coordinates order seats) memory (takes_takeSeats order columns)
  · rw [UInt64.lt_iff_toNat_lt, count]
    exact Nat.not_lt.2 fits

theorem consumes_decodeSeats_oversized {maxSeats : UInt64} {seats : List Seat}
    (many : maxSeats.toNat < seats.length) (countable : Countable seats) :
    Consumes (decodeSeats order maxSeats (UInt64.ofNat seats.length)) (coordinates order seats)
      (.error (.protocol (.tooManySeats (UInt64.ofNat seats.length) maxSeats))) := by
  have count := toNat_length countable
  unfold decodeSeats
  dsimp only
  rw [count, if_neg (Nat.not_le.2 countable), if_pos]
  · have drained := consumes_skip (coordinates order seats)
    rw [length_coordinates] at drained
    rw [← List.append_nil (coordinates order seats)]
    exact drained.bind (consumes_fail _)
  · rw [UInt64.lt_iff_toNat_lt, count]
    exact many

/-- The header of a reservation: its event and the number of its seats. -/
theorem consumes_header (id : UInt32) (count : UInt64) :
    Consumes (fields order 12 do return (← Frame.word32, ← Frame.word64))
      (order.word32 id ++ order.word64 count) (.ok (id, count)) := by
  refine consumes_fixed (by simp) (by decide) ?_
  exact (Frame.takes_word32 order id).bind
    ((Frame.takes_word64 order count).map (Frame.takes_pure (id, count)))

/-- What was encoded is decoded, and nothing more is consumed. -/
theorem consumes_decode {maxSeats : UInt64} {m : Request} (fits : m.Fits maxSeats) :
    Consumes (decode order maxSeats m.opcode) (m.body order) (.ok m) := by
  cases m with
  | create id rows cols =>
    refine consumes_fixed (by simp [body]) (by decide) ?_
    show Frame.Takes _ _ (_ ++ _ ++ _) _
    rw [List.append_assoc]
    exact (Frame.takes_word32 order id).bind ((Frame.takes_word64 order rows).bind
      ((Frame.takes_word64 order cols).map (Frame.takes_pure _)))
  | reserve id seats =>
    obtain ⟨few, memory⟩ := fits
    rw [body_reserve]
    exact (consumes_header order id _).bind
      ((consumes_decodeSeats order few memory).map (consumes_pure _))
  | view id =>
    exact consumes_fixed (by simp [body]) (by decide)
      ((Frame.takes_word32 order id).map (Frame.takes_pure (Request.view id)))
  | list => exact consumes_pure _
  | quit => exact consumes_pure _

/-- Too many seats are read to the last one before they are refused. -/
theorem consumes_decode_oversized {maxSeats : UInt64} (id : UInt32) {seats : List Seat}
    (many : maxSeats.toNat < seats.length) (countable : Countable seats) :
    Consumes (decode order maxSeats .reserve) ((Request.reserve id seats).body order)
      (.error (.protocol (.tooManySeats (UInt64.ofNat seats.length) maxSeats))) := by
  rw [body_reserve]
  exact (consumes_header order id _).bind
    (consumes_decodeSeats_oversized order many countable).bind_error

end

end Request

/-! ## What is decoded -/

/-- Whenever the step answers a value, it is one of these. -/
def Attempt.Answers {σ α : Type} (r : Attempt σ α) (p : α → Prop) : Prop :=
  ∀ s a t, r.run s = (.ok a, t) → p a

section

variable {σ α β : Type} {p : β → Prop}

theorem Attempt.answers_pure {b : β} (h : p b) : (pure b : Attempt σ β).Answers p := by
  rintro s a t ⟨⟩
  exact h

theorem Attempt.answers_fail (fault : Fault) : (Attempt.fail fault : Attempt σ β).Answers p := by
  rintro s a t ⟨⟩

theorem Attempt.answers_bind {r : Attempt σ α} {next : α → Attempt σ β}
    (h : ∀ a, (next a).Answers p) : (r >>= next).Answers p := by
  intro s b t e
  rw [Attempt.run_bind] at e
  split at e
  · exact h _ _ _ _ e
  · cases e

variable [Platform]

theorem Source.answers_fields {order : ByteOrder} {length : Nat} {take : Attempt Frame β}
    (h : take.Answers p) : (Source.fields order length take).Answers p := by
  intro s b t e
  unfold Attempt.run Source.fields at e
  split at e
  · obtain ⟨taken, -⟩ := Prod.mk.inj e
    exact h _ _ _ (Prod.ext taken rfl)
  · cases e

end

variable [Platform]

/-- What is decoded after an opcode is a request of that kind. -/
theorem Request.opcode_of_decode {order : ByteOrder} {maxSeats : UInt64} {op : Opcode}
    {m : Request} {s t : Source} (h : Request.decode order maxSeats op s = (.ok m, t)) :
    m.opcode = op := by
  have same : (Request.decode order maxSeats op).Answers (·.opcode = op) := by
    cases op with
    | create =>
      exact Source.answers_fields <| Attempt.answers_bind fun _ => Attempt.answers_bind fun _ =>
        Attempt.answers_bind fun _ => Attempt.answers_pure rfl
    | reserve =>
      exact Attempt.answers_bind fun _ => Attempt.answers_bind fun _ => Attempt.answers_pure rfl
    | view => exact Source.answers_fields <| Attempt.answers_bind fun _ => Attempt.answers_pure rfl
    | list | quit => exact Attempt.answers_pure rfl
    | setup => exact Attempt.answers_fail _
  exact same s m t h

end BoxOffice
