import BoxOffice.Proofs.Session.Answer
import BoxOffice.Proofs.Wire.Taken
import BoxOffice.Wire.Setup
/-!
# Nothing is lost on the wire

What is sent is received as it was, and what is received was sent so: for requests
(`Request.decode?_undoes`) and for the replies to them (`replies_undone`).  The first half of each is
in `Proofs.Wire.Request` and `Proofs.Wire.Reply`; the second half is here.  A reply that says a request
failed is the only message that can be sent in more than one way: its result is any number but 0.
-/

namespace BoxOffice

open Source

/-! ## Requests -/

namespace Request

variable {order : ByteOrder}

section

variable [Platform]

/-- Rows and columns make up as many seats, whose coordinates they are. -/
theorem coordinates_zipWith {rows cols : List UInt64} (h : rows.length = cols.length) :
    coordinates order (List.zipWith Seat.mk rows cols) =
      rows.flatMap order.word64 ++ cols.flatMap order.word64 := by
  have seats : List.zipWith Seat.mk rows cols = (rows.zip cols).map fun rc => ⟨rc.1, rc.2⟩ := by
    rw [List.zip, List.map_zipWith]
  have fst : (rows.zip cols).flatMap (fun rc => order.word64 rc.1) = rows.flatMap order.word64 := by
    rw [← List.flatMap_map, List.map_fst_zip (Nat.le_of_eq h)]
  have snd : (rows.zip cols).flatMap (fun rc => order.word64 rc.2) = cols.flatMap order.word64 := by
    rw [← List.flatMap_map, List.map_snd_zip (Nat.le_of_eq h.symm)]
  unfold coordinates
  rw [seats, List.flatMap_map, List.flatMap_map, fst, snd]

theorem spends_takeSeats (count : Nat) :
    Attempt.Spends (Frame.Holds order) (takeSeats count) fun bs seats =>
      bs = coordinates order seats ∧ seats.length = count := by
  refine (Frame.spends_many Frame.spends_word64 8 count).bind ?_
  rintro _ rows ⟨rfl, hrows⟩
  refine (Frame.spends_many Frame.spends_word64 8 count).map ?_
  rintro _ cols ⟨rfl, hcols⟩
  refine ⟨(coordinates_zipWith (hrows.trans hcols.symm)).symm, ?_⟩
  rw [List.length_zipWith, hrows, hcols, Nat.min_self]

/-- Seats are answered only if there are no more than allowed. -/
theorem spends_decodeSeats (maxSeats count : UInt64) :
    Attempt.Spends Source.Holds (decodeSeats order maxSeats count) fun bs seats =>
      bs = coordinates order seats ∧ seats.length = count.toNat ∧ seats.length ≤ maxSeats.toNat ∧
        Memory.refusal? (seats.length * seatWidth) 1 = none := by
  unfold decodeSeats
  dsimp only
  split
  · exact Attempt.spends_fail _
  · split
    · exact Attempt.spends_refused _
    · rename_i few
      refine (spends_fields (spends_takeSeats count.toNat) ?_).mono ?_
      · rintro bs seats ⟨rfl, length⟩
        rw [length_coordinates, length]
      · rintro bs seats ⟨⟨rfl, length⟩, memory⟩
        rw [UInt64.lt_iff_toNat_lt, ← length] at few
        rw [← length] at memory
        exact ⟨rfl, length, Nat.not_lt.1 few, memory⟩

/-- What was decoded came as it would be sent, and was not too much. -/
theorem spends_decode (maxSeats : UInt64) (op : Opcode) :
    Attempt.Spends Source.Holds (decode order maxSeats op) fun bs m =>
      bs = m.body order ∧ m.opcode = op ∧ m.Fits maxSeats := by
  have bare : ∀ m : Request, m.seatCount = 0 → m.Fits maxSeats := by
    intro m none_asked
    unfold Fits
    rw [none_asked]
    exact ⟨Nat.zero_le _, Memory.refusal?_of_fixed (by decide)⟩
  cases op with
  | create =>
    have fields : Attempt.Spends (Frame.Holds order)
        (do return Request.create (← Frame.word32) (← Frame.word64) (← Frame.word64))
        fun bs m => ∃ id rows cols, m = .create id rows cols ∧ bs = m.body order := by
      refine Frame.spends_word32.bind ?_
      rintro _ id rfl
      refine Frame.spends_word64.bind ?_
      rintro _ rows rfl
      refine Frame.spends_word64.map ?_
      rintro _ cols rfl
      exact ⟨id, rows, cols, rfl, (List.append_assoc ..).symm⟩
    refine (spends_fields fields ?_).mono ?_
    · rintro _ _ ⟨id, rows, cols, rfl, rfl⟩
      simp [body]
    · rintro _ _ ⟨⟨id, rows, cols, rfl, rfl⟩, -⟩
      exact ⟨rfl, rfl, bare _ rfl⟩
  | reserve =>
    refine (spends_fields (Frame.spends_word32.pair Frame.spends_word64) ?_).bind ?_
    · rintro bs h rfl
      simp
    · rintro _ ⟨id, count⟩ ⟨rfl, -⟩
      refine (spends_decodeSeats maxSeats count).map ?_
      rintro _ seats ⟨rfl, length, few, memory⟩
      refine ⟨?_, rfl, few, memory⟩
      rw [body_reserve, length, UInt64.ofNat_toNat]
  | view =>
    have field : Attempt.Spends (Frame.Holds order) (do return Request.view (← Frame.word32))
        fun bs m => ∃ id, m = .view id ∧ bs = m.body order := by
      refine Frame.spends_word32.map ?_
      rintro _ id rfl
      exact ⟨id, rfl, rfl⟩
    refine (spends_fields field ?_).mono ?_
    · rintro _ _ ⟨id, rfl, rfl⟩
      exact order.length_word32 id
    · rintro _ _ ⟨⟨id, rfl, rfl⟩, -⟩
      exact ⟨rfl, rfl, bare _ rfl⟩
  | list => exact Attempt.spends_pure ⟨rfl, rfl, bare .list rfl⟩
  | quit => exact Attempt.spends_pure ⟨rfl, rfl, bare .quit rfl⟩
  | setup => exact Attempt.spends_fail _

/-- A request is as long on the wire as it says itself, to the opcode in front. -/
theorem spends_decode? (maxSeats : UInt64) :
    Attempt.Spends Source.Holds (decode? order maxSeats) fun bs m? =>
      ∀ m, m? = some m → bs = m.encode order ∧ m.Fits maxSeats := by
  refine spends_byte?.bind ?_
  rintro _ b? rfl
  cases b? with
  | none => exact Attempt.spends_pure fun m hm => by cases hm
  | some b =>
    dsimp only
    cases hop : Opcode.ofByte b with
    | error fault => exact Attempt.spends_fail fault
    | ok op =>
      refine (spends_decode maxSeats op).map ?_
      rintro _ m ⟨rfl, rfl, fits⟩ m' ⟨⟩
      refine ⟨?_, fits⟩
      rw [← Opcode.byte_of_ofByte hop]
      rfl

theorem consumes_decode? {maxSeats : UInt64} {m : Request} (fits : m.Fits maxSeats) :
    Consumes (decode? order maxSeats) (m.encode order) (.ok (some m)) := by
  intro quiet s tail rest gives
  obtain ⟨t, hb, body⟩ := byte?_of_gives gives
  obtain ⟨u, decoded, left⟩ := consumes_decode order fits quiet t tail rest body
  refine ⟨u, ?_, left⟩
  unfold decode?
  rw [Attempt.run_bind_ok hb]
  dsimp only
  rw [Opcode.ofByte_byte]
  exact Attempt.run_bind_ok decoded

/-- A request that fits the session is received as it was sent, however it comes in pieces, and all
that follows it is left.  Whenever a request is received, on whatever stream, the bytes that were
taken for it are the ones that it is sent as, and it fits. -/
theorem decode?_undoes (order : ByteOrder) (maxSeats : UInt64) :
    (∀ m : Request, m.Fits maxSeats → ∀ quiet s tail rest,
      Gives quiet s (m.encode order ++ tail) rest →
      ∃ t, decode? order maxSeats s = (.ok (some m), t) ∧ Gives quiet t tail rest) ∧
    ∀ s m t, decode? order maxSeats s = (.ok (some m), t) →
      s.bytes = m.encode order ++ t.bytes ∧ m.Fits maxSeats := by
  constructor
  · intro m fits quiet s tail rest gives
    exact consumes_decode? fits quiet s tail rest gives
  · intro s m t decoded
    obtain ⟨_, _, split, rfl, taken⟩ := spends_decode? maxSeats s (some m) t s.bytes decoded rfl
    obtain ⟨rfl, fits⟩ := taken m rfl
    exact ⟨split, fits⟩

end

attribute [local instance] Platform.x86_64 in
/-- A reservation that is interrupted and followed by the opcode of a list. -/
theorem decode?_undoes_reservation :
    let m : Request := .reserve 7 [⟨1, 2⟩, ⟨3, 4⟩]
    let s : Source :=
      [.data ((m.encode .big).take 9), .interrupted, .data ((m.encode .big).drop 9 ++ [0x36])]
    ∃ t, decode? .big 2 s = (.ok (some m), t) ∧ Gives false t [0x36] [] ∧
      s.bytes = m.encode .big ++ t.bytes ∧ m.Fits 2 := by
  intro m s
  have gives : Gives false s (m.encode .big ++ [0x36]) [] := by
    have := (gives_data false ((m.encode .big).drop 9 ++ [0x36]) []).interrupted.data
      ((m.encode .big).take 9)
    rwa [← List.append_assoc, List.take_append_drop] at this
  obtain ⟨t, decoded, left⟩ := (decode?_undoes .big 2).1 m ⟨by decide, by decide⟩ false s _ _ gives
  exact ⟨t, decoded, left, (decode?_undoes .big 2).2 s m t decoded⟩

end Request

/-! ## Replies -/

section

variable [Platform]

/-- How an answer is sent: as it is encoded, but a failure with any number except 0. -/
def SentAs {α : Type} (order : ByteOrder) (encode : α → List UInt8) (failure : Option α)
    (a : α) (bs : List UInt8) : Prop :=
  bs = encode a ∨ failure = some a ∧ ∃ n : Int32, n ≠ 0 ∧ bs = order.int32 n

/-- Decoding undoes sending, for the answers that fit and for no others. -/
structure Undoes {α : Type} (decode : Attempt Source α) (sent : α → List UInt8 → Prop)
    (fits : α → Prop) : Prop where
  /-- What was sent is received, however it comes in pieces, and all that follows it is left. -/
  received : ∀ a bs, fits a → sent a bs → ∀ quiet s tail rest, Gives quiet s (bs ++ tail) rest →
    ∃ t, decode s = (.ok a, t) ∧ Gives quiet t tail rest
  /-- What is received was sent in the bytes that were taken for it. -/
  taken : ∀ s a t, decode s = (.ok a, t) →
    fits a ∧ ∃ bs, s.bytes = bs ++ t.bytes ∧ sent a bs

omit [Platform] in
theorem undoes_of_spends {α : Type} {decode : Attempt Source α} {sent : α → List UInt8 → Prop}
    {fits : α → Prop} (forth : ∀ a bs, fits a → sent a bs → Consumes decode bs (.ok a))
    (back : Attempt.Spends Source.Holds decode fun bs a => sent a bs ∧ fits a) :
    Undoes decode sent fits := by
  refine ⟨fun a bs ha hbs => forth a bs ha hbs, ?_⟩
  intro s a t decoded
  obtain ⟨bs, _, split, rfl, hbs, ha⟩ := back s a t s.bytes decoded rfl
  exact ⟨ha, bs, split, hbs⟩

variable {order : ByteOrder}

/-- Any number but 0 is received as a failure. -/
theorem consumes_refusal {n : Int32} (h : n ≠ 0) :
    Consumes (Outcome.decode order) (order.int32 n) (.ok .failed) := by
  refine consumes_fixed (order.length_int32 n) (by decide) ?_
  refine (Frame.takes_int32 order n).map ?_
  unfold Outcome.ofCode
  rw [if_neg h]
  exact Frame.takes_pure _

theorem spends_outcome :
    Attempt.Spends Source.Holds (Outcome.decode order) fun bs o =>
      SentAs order (Outcome.encode order) (some .failed) o bs := by
  have field : Attempt.Spends (Frame.Holds order) (do return Outcome.ofCode (← Frame.int32))
      fun bs o => ∃ n, o = .ofCode n ∧ bs = order.int32 n := by
    refine Frame.spends_int32.map ?_
    rintro _ n rfl
    exact ⟨n, rfl, rfl⟩
  refine (spends_fields field ?_).mono ?_
  · rintro _ _ ⟨n, rfl, rfl⟩
    exact order.length_int32 n
  · rintro _ _ ⟨⟨n, rfl, rfl⟩, -⟩
    unfold Outcome.ofCode
    by_cases zero : n = 0
    · rw [if_pos zero, zero]
      exact .inl rfl
    · rw [if_neg zero]
      exact .inr ⟨rfl, n, zero, rfl⟩

/-- A reply that is over after a failure, and goes on otherwise. -/
theorem spends_after_outcome {α : Type} {next : Outcome → Attempt Source α}
    {encode : α → List UInt8} {failed : α} {fits : α → Prop}
    (refused : next .failed = pure failed ∧ encode failed = Outcome.failed.encode order)
    (small : fits failed)
    (granted : Attempt.Spends Source.Holds (next .done) fun bs a =>
      Outcome.done.encode order ++ bs = encode a ∧ fits a) :
    Attempt.Spends Source.Holds (Outcome.decode order >>= next) fun bs a =>
      SentAs order encode (some failed) a bs ∧ fits a := by
  refine spends_outcome.bind ?_
  intro xs outcome sent
  cases outcome with
  | done =>
    rcases sent with rfl | ⟨⟨⟩, -⟩
    exact granted.mono fun _ _ ⟨same, ha⟩ => ⟨.inl same, ha⟩
  | failed =>
    rw [refused.1]
    refine Attempt.spends_pure ⟨?_, small⟩
    rw [List.append_nil]
    rcases sent with rfl | ⟨-, any⟩
    · exact .inl refused.2.symm
    · exact .inr ⟨rfl, any⟩

omit [Platform] in
theorem spends_arrayLength (count width : Nat) :
    Attempt.Spends Source.Holds (arrayLength count width) fun bs n =>
      bs = [] ∧ n = count * width := by
  unfold arrayLength
  split
  · exact Attempt.spends_fail _
  · exact Attempt.spends_pure ⟨rfl, rfl⟩

theorem spends_words (count : Nat) :
    Attempt.Spends Source.Holds (fields order (count * 4) (Frame.many Frame.word32 4 count))
      fun bs words => bs = words.flatMap order.word32 ∧ words.length = count ∧
        Memory.refusal? (words.length * 4) 1 = none := by
  refine (spends_fields (Frame.spends_many Frame.spends_word32 4 count) ?_).mono ?_
  · rintro _ words ⟨rfl, length⟩
    rw [length_flatMap_of_forall order.length_word32, length]
  · rintro _ words ⟨⟨rfl, length⟩, memory⟩
    rw [← length] at memory
    exact ⟨rfl, length, memory⟩

theorem ViewReply.spends_decode :
    Attempt.Spends Source.Holds (ViewReply.decode order) fun bs reply =>
      SentAs order (ViewReply.encode order) (some .failed) reply bs ∧ reply.Fits := by
  refine spends_after_outcome ⟨rfl, rfl⟩ trivial ?_
  refine (spends_fields (Frame.spends_word64.pair Frame.spends_word64) ?_).bind ?_
  · rintro _ d rfl
    simp
  · rintro _ ⟨rows, cols⟩ ⟨rfl, -⟩
    dsimp only
    split
    · exact Attempt.spends_fail _
    · refine (spends_arrayLength _ 4).bind ?_
      rintro _ _ ⟨rfl, rfl⟩
      refine (spends_words _).map ?_
      rintro _ markers ⟨rfl, count, memory⟩
      refine ⟨?_, count, memory⟩
      simp [encode]

theorem ListReply.spends_decode :
    Attempt.Spends Source.Holds (ListReply.decode order) fun bs reply =>
      SentAs order (ListReply.encode order) (some .failed) reply bs ∧ reply.Fits := by
  refine spends_after_outcome ⟨rfl, rfl⟩ trivial ?_
  refine (spends_fields Frame.spends_word64 ?_).bind ?_
  · rintro _ count rfl
    exact order.length_word64 count
  · rintro _ count ⟨rfl, -⟩
    refine (spends_arrayLength _ 4).bind ?_
    rintro _ _ ⟨rfl, rfl⟩
    refine (spends_words _).map ?_
    rintro _ ids ⟨rfl, length, memory⟩
    refine ⟨?_, memory⟩
    simp [encode, length]

theorem undoes_setup : Undoes (SetupReply.decode order) (SentAs order (SetupReply.encode order) none)
    fun _ => True := by
  refine undoes_of_spends ?_ ?_
  · rintro ⟨id⟩ bs - (rfl | ⟨⟨⟩, -⟩)
    refine consumes_fixed (order.length_int32 id) (by decide) ?_
    exact (Frame.takes_int32 order id).map (Frame.takes_pure _)
  · have field : Attempt.Spends (Frame.Holds order)
        (do return ({ sessionId := ← Frame.int32 } : SetupReply)) fun bs m => bs = m.encode order := by
      refine Frame.spends_int32.map ?_
      rintro _ id rfl
      rfl
    refine (spends_fields field ?_).mono ?_
    · rintro _ m rfl
      exact order.length_int32 m.sessionId
    · rintro _ m ⟨rfl, -⟩
      exact ⟨.inl rfl, trivial⟩

theorem undoes_outcome : Undoes (Outcome.decode order)
    (SentAs order (Outcome.encode order) (some .failed)) fun _ => True := by
  refine undoes_of_spends ?_ (spends_outcome.mono fun _ _ sent => ⟨sent, trivial⟩)
  rintro o bs - (rfl | ⟨⟨⟩, n, other, rfl⟩)
  · exact Outcome.consumes_decode order o
  · exact consumes_refusal other

theorem undoes_view : Undoes (ViewReply.decode order)
    (SentAs order (ViewReply.encode order) (some .failed)) ViewReply.Fits := by
  refine undoes_of_spends ?_ ViewReply.spends_decode
  rintro reply bs fits (rfl | ⟨⟨⟩, n, other, rfl⟩)
  · exact ViewReply.consumes_decode order fits
  · exact (consumes_refusal other).map (consumes_pure _)

theorem undoes_list : Undoes (ListReply.decode order)
    (SentAs order (ListReply.encode order) (some .failed)) ListReply.Fits := by
  refine undoes_of_spends ?_ ListReply.spends_decode
  rintro reply bs fits (rfl | ⟨⟨⟩, n, other, rfl⟩)
  · exact ListReply.consumes_decode order fits
  · exact (consumes_refusal other).map (consumes_pure _)

/-- Each kind of reply is received as it was sent, and was sent as it is received.  A grid fits if it
has one marker for each seat and a list if it can be held in memory, as all that a store tells does. -/
theorem replies_undone (order : ByteOrder) :
    Undoes (SetupReply.decode order) (SentAs order (SetupReply.encode order) none) (fun _ => True) ∧
    Undoes (Outcome.decode order) (SentAs order (Outcome.encode order) (some .failed))
      (fun _ => True) ∧
    Undoes (ViewReply.decode order) (SentAs order (ViewReply.encode order) (some .failed))
      ViewReply.Fits ∧
    Undoes (ListReply.decode order) (SentAs order (ListReply.encode order) (some .failed))
      ListReply.Fits ∧
    ∀ store : Store, store.Reachable →
      (∀ id, (ViewReply.ofResult (store.snapshot id)).Fits) ∧ (ListReply.found store.list).Fits :=
  ⟨undoes_setup, undoes_outcome, undoes_view, undoes_list, fun _ reachable =>
    ⟨reachable.sound.fits_view, reachable.sound.fits_list⟩⟩

end

attribute [local instance] Platform.x86_64 in
/-- A failure told by the number -3, in pieces, and what a store with one event tells. -/
theorem replies_undone_refusal :
    let store := ((Store.empty 9 0).perform (.create 7 1 2)).2
    (∃ t, ViewReply.decode .big [.data [0xFF, 0xFF], .interrupted, .data [0xFF, 0xFD, 0x36]] =
      (.ok .failed, t) ∧ Gives false t [0x36] []) ∧
    (ViewReply.ofResult (store.snapshot 7)).Fits ∧ (ListReply.found store.list).Fits := by
  intro store
  obtain ⟨-, -, view, -, told⟩ := replies_undone .big
  have reachable : store.Reachable := (Store.Reachable.empty 9 0).perform _
  refine ⟨?_, (told store reachable).1 7, (told store reachable).2⟩
  have sent : SentAs .big (ViewReply.encode .big) (some .failed) .failed [0xFF, 0xFF, 0xFF, 0xFD] :=
    .inr ⟨rfl, -3, by decide, by decide⟩
  exact view.received .failed _ trivial sent false _ [0x36] []
    ((gives_data false [0xFF, 0xFD, 0x36] []).interrupted.data [0xFF, 0xFF])

end BoxOffice
