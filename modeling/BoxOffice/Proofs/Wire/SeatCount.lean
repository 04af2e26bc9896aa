import BoxOffice.Proofs.Wire.Breaking
import BoxOffice.Proofs.Wire.RoundTrip
/-!
# The number of seats that a reservation announces

A reservation announces any number of 64 bits, and any bytes may follow.  As many bytes as the number
asks for are the coordinates of that many seats (`Request.exists_coordinates`), so what was read of
them as they are sent (`Request.consumes_decode`, `Request.consumes_decode_oversized`,
`Request.breaks_reserve`) holds of any bytes; a number whose seats cannot be counted in bytes is
refused before any of them is read (`Request.consumes_undrainable`).

Main statement: `Request.decode_reserve_announced`.
-/

namespace BoxOffice

open Source

namespace Request

variable {order : ByteOrder} {maxSeats count : UInt64} {bs : List UInt8}

/-! ## Any bytes as seats -/

section

variable [Platform]

/-- Any bytes are the bytes of words, if their number is right. -/
theorem exists_words (order : ByteOrder) {n : Nat} (h : bs.length = n * 8) :
    ∃ words : List UInt64, words.length = n ∧ words.flatMap order.word64 = bs := by
  induction n generalizing bs with
  | zero =>
    rw [Nat.zero_mul] at h
    exact ⟨[], rfl, (List.eq_nil_of_length_eq_zero h).symm⟩
  | succ n ih =>
    rw [Nat.add_mul, Nat.one_mul, Nat.add_comm] at h
    obtain ⟨first, others, rfl, hfirst, hothers⟩ := exists_append_of_length h
    obtain ⟨words, length, rfl⟩ := ih hothers
    refine ⟨UInt64.ofNat (order.read first) :: words, by rw [List.length_cons, length], ?_⟩
    rw [List.flatMap_cons, order.word64_read hfirst]

/-- Any bytes are the coordinates of seats, if their number is right. -/
theorem exists_coordinates (order : ByteOrder) {n : Nat} (h : bs.length = n * seatWidth) :
    ∃ seats, seats.length = n ∧ coordinates order seats = bs := by
  have halves : bs.length = n * 8 + n * 8 := by
    unfold seatWidth at h
    omega
  obtain ⟨first, second, rfl, hfirst, hsecond⟩ := exists_append_of_length halves
  obtain ⟨rows, hrows, rfl⟩ := exists_words order hfirst
  obtain ⟨cols, hcols, rfl⟩ := exists_words order hsecond
  refine ⟨List.zipWith Seat.mk rows cols, ?_, coordinates_zipWith (hrows.trans hcols.symm)⟩
  rw [List.length_zipWith, hrows, hcols, Nat.min_self]

/-- A header and the bytes that it asks for are a reservation as it is sent. -/
theorem exists_body (order : ByteOrder) (id : UInt32) (h : bs.length = count.toNat * seatWidth) :
    ∃ seats, seats.length = count.toNat ∧ coordinates order seats = bs ∧
      (Request.reserve id seats).body order = order.word32 id ++ order.word64 count ++ bs := by
  obtain ⟨seats, length, rfl⟩ := exists_coordinates order h
  refine ⟨seats, length, rfl, ?_⟩
  rw [body_reserve, length, UInt64.ofNat_toNat]

/-! ## Any number of seats -/

/-- The header is all that is read of a reservation whose bytes cannot be counted. -/
theorem consumes_undrainable (id : UInt32) (many : UInt64.size ≤ count.toNat * seatWidth) :
    Consumes (decode order maxSeats .reserve) (order.word32 id ++ order.word64 count)
      (.error (.transport (.undrainable count))) := by
  have refused : decodeSeats order maxSeats count = .fail (.transport (.undrainable count)) := by
    unfold decodeSeats
    dsimp only
    rw [if_pos many]
  rw [← List.append_nil (order.word32 id ++ order.word64 count)]
  refine (consumes_header order id count).bind ?_
  dsimp only
  rw [refused]
  exact (consumes_fail _).bind_error

/-- Seats that are missing are missed, whatever the bytes are that have come. -/
theorem breaks_announced (id : UInt32) (roomy : Memory.refusal? maxSeats.toNat seatWidth = none)
    (countable : count.toNat * seatWidth < UInt64.size)
    (short : bs.length < count.toNat * seatWidth) {quiet : Bool} {s rest left : Source}
    (gives : Gives quiet s (order.word32 id ++ order.word64 count ++ bs) rest)
    (closed : byte? rest = (.ok none, left)) :
    ∃ got wanted, got < wanted ∧
      decode order maxSeats .reserve s = (.error (.transport (.closedAfter got wanted)), left) := by
  -- zeros in the place of what is missing would make it a whole reservation
  have padded : (bs ++ List.replicate (count.toNat * seatWidth - bs.length) 0).length =
      count.toNat * seatWidth := by
    rw [List.length_append, List.length_replicate]
    omega
  obtain ⟨seats, length, -, whole⟩ := exists_body order id padded
  have breaks : Breaks (decode order maxSeats .reserve) _ :=
    breaks_reserve order id (by rwa [Countable, length]) fun few =>
      (fits_of_seatCount (m := .reserve id seats) few roomy).2
  rw [whole, ← List.append_assoc] at breaks
  refine breaks quiet s _ rest left (List.prefix_append _ _) ?_ gives closed
  intro same
  have none_missing := (List.replicate_eq_nil_iff _).1 (List.self_eq_append_right.1 same)
  omega

/-- The seats are taken as a whole, and are answered unless they are too many. -/
theorem consumes_announced (order : ByteOrder) (id : UInt32)
    (roomy : Memory.refusal? maxSeats.toNat seatWidth = none)
    (countable : count.toNat * seatWidth < UInt64.size)
    (full : bs.length = count.toNat * seatWidth) :
    ∃ seats, seats.length = count.toNat ∧ coordinates order seats = bs ∧
      Consumes (decode order maxSeats .reserve) (order.word32 id ++ order.word64 count ++ bs)
        (if count ≤ maxSeats then .ok (.reserve id seats)
          else .error (.protocol (.tooManySeats count maxSeats))) := by
  obtain ⟨seats, length, same, whole⟩ := exists_body order id full
  refine ⟨seats, length, same, ?_⟩
  rw [← whole]
  split
  · rename_i few
    rw [UInt64.le_iff_toNat_le, ← length] at few
    exact consumes_decode order (fits_of_seatCount (m := .reserve id seats) few roomy)
  · rename_i many
    rw [UInt64.le_iff_toNat_le, ← length, Nat.not_le] at many
    have oversized := consumes_decode_oversized order id many (by rwa [Countable, length])
    rwa [length, UInt64.ofNat_toNat] at oversized

/-- **A reservation is safe to decode whatever number of seats it announces.**  If the bytes of so many
seats cannot be counted, the header is read and nothing more.  If fewer bytes come than are asked for,
the stream is at fault.  Otherwise just these bytes are taken: they are the seats that are answered
if there are no more of them than allowed, and are refused if there are.  Seats are never answered
beyond what is allowed. -/
theorem decode_reserve_announced (order : ByteOrder) {maxSeats : UInt64}
    (roomy : Memory.refusal? maxSeats.toNat seatWidth = none) :
    (∀ (id : UInt32) (count : UInt64) (bs : List UInt8) quiet s rest,
      Gives quiet s (order.word32 id ++ order.word64 count ++ bs) rest →
      (UInt64.size ≤ count.toNat * 16 →
        ∃ t, decode order maxSeats .reserve s = (.error (.transport (.undrainable count)), t) ∧
          Gives quiet t bs rest) ∧
      (count.toNat * 16 < UInt64.size → bs.length < count.toNat * 16 →
        ∀ left, byte? rest = (.ok none, left) → ∃ got wanted,
          decode order maxSeats .reserve s = (.error (.transport (.closedAfter got wanted)), left)) ∧
      (count.toNat * 16 < UInt64.size → count.toNat * 16 ≤ bs.length →
        ∃ seats t, seats.length = count.toNat ∧
          coordinates order seats = bs.take (count.toNat * 16) ∧
          decode order maxSeats .reserve s =
            (if count ≤ maxSeats then .ok (.reserve id seats)
              else .error (.protocol (.tooManySeats count maxSeats)), t) ∧
          Gives quiet t (bs.drop (count.toNat * 16)) rest)) ∧
    ∀ op s m t, decode order maxSeats op s = (.ok m, t) → m.seatCount ≤ maxSeats.toNat := by
  constructor
  · intro id count bs quiet s rest gives
    refine ⟨fun many => ?_, fun countable short left closed => ?_, fun countable enough => ?_⟩
    · exact consumes_undrainable id many quiet s bs rest gives
    · obtain ⟨got, wanted, -, broken⟩ := breaks_announced id roomy countable short gives closed
      exact ⟨got, wanted, broken⟩
    · have full : (bs.take (count.toNat * 16)).length = count.toNat * 16 :=
        List.length_take_of_le enough
      obtain ⟨seats, length, same, consumes⟩ :=
        consumes_announced order id roomy countable full
      rw [← List.take_append_drop (count.toNat * 16) bs, ← List.append_assoc] at gives
      obtain ⟨t, decoded, left⟩ := consumes quiet s _ rest gives
      exact ⟨seats, t, length, same, decoded, left⟩
  · intro op s m t decoded
    obtain ⟨_, _, -, -, -, -, few, -⟩ := spends_decode maxSeats op s m t s.bytes decoded rfl
    exact few

end

attribute [local instance] Platform.x86_64 in
/-- A number whose seats cannot be counted, two seats of which only three bytes come, and one seat too
many. -/
theorem decode_reserve_announced_each :
    let header (count : UInt64) : List UInt8 := ByteOrder.big.word32 7 ++ ByteOrder.big.word64 count
    Memory.refusal? (2 : UInt64).toNat seatWidth = none ∧
      (∃ t, decode .big 2 .reserve [.data (header 0x1000000000000000 ++ [0x36])] =
          (.error (.transport (.undrainable 0x1000000000000000)), t) ∧ Gives false t [0x36] []) ∧
      (∃ got wanted, decode .big 2 .reserve [.data (header 2 ++ [0, 0, 0]), .closed] =
          (.error (.transport (.closedAfter got wanted)), [])) ∧
      ∃ t, decode .big 2 .reserve [.data (header 3 ++ (List.replicate 48 0x01 ++ [0x36]))] =
          (.error (.protocol (.tooManySeats 3 2)), t) ∧ Gives false t [0x36] [] := by
  intro header
  have roomy : Memory.refusal? (2 : UInt64).toNat seatWidth = none := by decide
  have safe := (decode_reserve_announced .big roomy).1 7
  refine ⟨roomy, ?_, ?_, ?_⟩
  · exact (safe _ _ false _ _ (gives_data false _ [])).1 (by decide)
  · exact (safe 2 [0, 0, 0] false _ _ (gives_data false _ [.closed])).2.1 (by decide) (by decide)
      [] rfl
  · have refused := safe 3 (List.replicate 48 0x01 ++ [0x36]) false _ _ (gives_data false _ [])
    obtain ⟨seats, t, -, -, decoded, left⟩ := refused.2.2 (by decide) (by decide)
    exact ⟨t, decoded, left⟩

end Request

end BoxOffice
