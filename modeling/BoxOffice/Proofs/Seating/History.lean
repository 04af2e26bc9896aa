import BoxOffice.Proofs.Seating.Store
/-!
# The history of a store

Calls and answers, in order, are a `Log`; it says which events were put on sale (`openings`) and what
was sold of each (`sales`).  `Store.Agrees` ties a store to its log, call by call, so that after any
calls on a new store (`performAll_tells`)

* the list has the identifiers of the openings, each once;
* the sales of an event are numbered 1, 2, 3, … and share no seat;
* a seat is shown with the number of the sale it was sold in, or as free if it was not sold.
-/

namespace BoxOffice

/-- Calls and what was answered to them. -/
abbrev Log := List (Store.Call × Store.Answer)

/-- An event was put on sale. -/
structure Opening where
  id : UInt32
  rows : UInt64
  cols : UInt64

/-- Seats were reserved under a number. -/
structure Sale where
  number : UInt32
  seats : List Seat

namespace Log

/-- The events that were put on sale. -/
def openings (log : Log) : List Opening :=
  log.filterMap fun entry => match entry with
    | (.create id rows cols, .created (.ok ())) => some ⟨id, rows, cols⟩
    | _ => none

/-- What was sold of one event. -/
def sales (id : UInt32) (log : Log) : List Sale :=
  log.filterMap fun entry => match entry with
    | (.reserve id' seats, .reserved (.ok n)) => if id' = id then some ⟨n, seats⟩ else none
    | _ => none

theorem openings_append (log more : Log) : openings (log ++ more) = openings log ++ openings more :=
  List.filterMap_append

theorem sales_append (id : UInt32) (log more : Log) :
    sales id (log ++ more) = sales id log ++ sales id more :=
  List.filterMap_append

end Log

open Log

/-! ## An event and its sales -/

/-- The markers of an event are those that its sales have made. -/
structure Event.Honours (e : Event) (sold : List Sale) : Prop where
  size : e.markers.size = e.rows.toNat * e.cols.toNat
  count : e.reservations.toNat = sold.length
  numbered : sold.map (·.number.toNat) = List.range' 1 sold.length
  filled : ∀ sale ∈ sold, sale.seats ≠ [] ∧ ∀ seat ∈ sale.seats, seat.within e.rows e.cols = true
  held : ∀ sale ∈ sold, ∀ seat ∈ sale.seats, e.markers[seat.offset e.cols]? = some sale.number
  free : ∀ seat : Seat, seat.within e.rows e.cols = true → (∀ sale ∈ sold, seat ∉ sale.seats) →
    e.markers[seat.offset e.cols]? = some 0

namespace Event

theorem honours_fresh (id : UInt32) (rows cols : UInt64) : (fresh id rows cols).Honours [] where
  size := Array.size_replicate
  count := rfl
  numbered := rfl
  filled := fun _ h => absurd h List.not_mem_nil
  held := fun _ h => absurd h List.not_mem_nil
  free := by
    intro seat inside _
    show (Array.replicate (rows.toNat * cols.toNat) 0)[seat.offset cols]? = some 0
    rw [Array.getElem?_replicate]
    exact if_pos (Seat.offset_lt inside)

namespace Honours

variable {e : Event} {sold : List Sale}

theorem number_ne_zero (h : e.Honours sold) {sale : Sale} (hs : sale ∈ sold) : sale.number ≠ 0 := by
  have listed : sale.number.toNat ∈ List.range' 1 sold.length := by
    rw [← h.numbered]
    exact List.mem_map_of_mem hs
  rw [List.mem_range'_1] at listed
  intro zero
  rw [zero] at listed
  exact absurd listed.1 (by decide)

/-- Two sales of one seat would give it two markers. -/
theorem apart (h : e.Honours sold) : sold.Pairwise fun a b => a.seats.Disjoint b.seats := by
  have numbers : sold.Pairwise fun a b => a.number ≠ b.number := by
    have : (sold.map (·.number.toNat)).Nodup := by
      rw [h.numbered]
      exact List.nodup_range'
    exact (List.pairwise_map.1 this).imp fun ne same => ne (congrArg UInt32.toNat same)
  refine numbers.imp_of_mem fun {a b} ha hb ne seat hsa hsb => ne ?_
  exact Option.some.inj ((h.held a ha seat hsa).symm.trans (h.held b hb seat hsb))

/-- A reservation that succeeds is one more sale. -/
theorem reserve (h : e.Honours sold) {seats : List Seat} {n : UInt32} {e' : Event}
    (hr : e.reserve seats = .ok (n, e')) : e'.Honours (sold ++ [⟨n, seats⟩]) := by
  obtain ⟨some_seats, -, free, number_left, rfl, rfl⟩ := reserve_eq_ok_iff.1 hr
  have number : (e.reservations + 1).toNat = sold.length + 1 := by
    rw [UInt32.toNat_add, ← h.count]
    show (e.reservations.toNat + 1) % UInt32.size = _
    rw [Nat.mod_eq_of_lt number_left]
  have place_lt : ∀ seat : Seat, seat.within e.rows e.cols = true →
      seat.offset e.cols < e.markers.size := by
    intro seat inside
    rw [h.size]
    exact Seat.offset_lt inside
  constructor
  · rw [size_stamp, h.size]
    rfl
  · rw [List.length_append]
    exact number
  · rw [List.map_append, h.numbered, List.length_append, List.length_singleton, List.range'_concat]
    simp only [List.map_singleton, number]
    congr 2
    omega
  · intro sale hs
    rcases List.mem_append.1 hs with hs | hs
    · exact h.filled sale hs
    · rw [List.mem_singleton.1 hs]
      exact ⟨some_seats, fun seat hseat => (free seat hseat).1⟩
  · intro sale hs seat hseat
    rw [stamp_cols, getElem?_stamp]
    rcases List.mem_append.1 hs with hs | hs
    · -- a seat that was sold before is not free, so the new sale does not touch it
      rw [if_neg]
      · exact h.held sale hs seat hseat
      · rintro ⟨hplace, -⟩
        obtain ⟨other, hother, same⟩ := List.mem_map.1 hplace
        have marker := h.held sale hs seat hseat
        rw [← same, (free other hother).2] at marker
        exact h.number_ne_zero hs (Option.some.inj marker).symm
    · rw [List.mem_singleton.1 hs] at hseat ⊢
      rw [if_pos ⟨List.mem_map_of_mem hseat, place_lt seat (free seat hseat).1⟩]
  · intro seat inside unsold
    rw [stamp_cols, getElem?_stamp, if_neg]
    · exact h.free seat inside fun sale hs => unsold sale (List.mem_append_left _ hs)
    · rintro ⟨hplace, -⟩
      obtain ⟨other, hother, same⟩ := List.mem_map.1 hplace
      have : other = seat := Seat.offset_inj (free other hother).1 inside same
      exact unsold _ (List.mem_append_right _ (List.mem_singleton_self _)) (this ▸ hother)

end Honours

end Event

/-! ## A store and its log -/

namespace Store

/-- The events of a store are those that its log opened, each with the sales that the log tells of.
An event that was never opened has no sales. -/
structure Agrees (s : Store) (log : Log) : Prop where
  opened : s.events.map (fun e => Opening.mk e.id e.rows e.cols) = openings log
  honours : ∀ e ∈ s.events, e.Honours (sales e.id log)
  unopened : ∀ id, s.find? id = none → sales id log = []

theorem agrees_empty (maxEventSeats accessDelay : UInt64) :
    (Store.empty maxEventSeats accessDelay).Agrees [] :=
  ⟨rfl, fun _ he => absurd he List.not_mem_nil, fun _ _ => rfl⟩

variable {s : Store} {log : Log}

/-- An entry that opens nothing and sells nothing changes nothing. -/
theorem Agrees.silent (h : s.Agrees log) {entry : Call × Answer}
    (none_opened : openings [entry] = []) (none_sold : ∀ id, sales id [entry] = []) :
    s.Agrees (log ++ [entry]) := by
  constructor
  · rw [openings_append, none_opened, List.append_nil]
    exact h.opened
  · intro e he
    rw [sales_append, none_sold, List.append_nil]
    exact h.honours e he
  · intro id absent
    rw [sales_append, none_sold, List.append_nil]
    exact h.unopened id absent

theorem Agrees.created (h : s.Agrees log) {id : UInt32} {rows cols : UInt64}
    (absent : s.find? id = none) :
    ({ s with events := s.events ++ [Event.fresh id rows cols] } : Store).Agrees
      (log ++ [(.create id rows cols, .created (.ok ()))]) := by
  have none_sold : ∀ k,
      sales k (log ++ [(.create id rows cols, .created (.ok ()))]) = sales k log := by
    intro k
    rw [sales_append]
    exact List.append_nil _
  constructor
  · rw [List.map_append, h.opened, openings_append]
    rfl
  · intro e he
    rw [none_sold]
    rcases List.mem_append.1 he with he | he
    · exact h.honours e he
    · rw [List.mem_singleton.1 he, show (Event.fresh id rows cols).id = id from rfl,
        h.unopened id absent]
      exact Event.honours_fresh id rows cols
  · intro k unknown
    rw [none_sold]
    refine h.unopened k (find?_eq_none_iff.2 fun hk => find?_eq_none_iff.1 unknown ?_)
    unfold list
    rw [List.map_append]
    exact List.mem_append_left _ hk

/-- No seat of one event is sold twice. -/
theorem Agrees.apart (h : s.Agrees log) (id : UInt32) :
    (sales id log).Pairwise fun a b => a.seats.Disjoint b.seats := by
  cases found : s.find? id with
  | none =>
    rw [h.unopened id found]
    exact List.Pairwise.nil
  | some e =>
    obtain ⟨he, rfl⟩ := mem_of_find? found
    exact (h.honours e he).apart

theorem Agrees.list_eq (h : s.Agrees log) : s.list = (openings log).map (·.id) := by
  rw [← h.opened, List.map_map]
  rfl

section

variable [Platform]

theorem Agrees.reserved (h : s.Agrees log) (hs : s.Sound) {e e' : Event} (he : e ∈ s.events)
    {seats : List Seat} {n : UInt32} (taken : e.reserve seats = .ok (n, e')) :
    (s.replace e').Agrees (log ++ [(.reserve e.id seats, .reserved (.ok n))]) := by
  obtain ⟨-, -, -, -, -, he'⟩ := Event.reserve_eq_ok_iff.1 taken
  have id_eq := Event.id_of_reserve taken
  have sold : ∀ k, sales k (log ++ [(.reserve e.id seats, .reserved (.ok n))]) =
      sales k log ++ if e.id = k then [⟨n, seats⟩] else [] := by
    intro k
    rw [sales_append]
    by_cases same : e.id = k <;> simp [sales, same]
  constructor
  · -- the event that is put in its place has the same identifier and the same grid
    rw [openings_append]
    show List.map _ (List.map _ s.events) = _ ++ []
    rw [List.append_nil, ← h.opened, List.map_map]
    refine List.map_congr_left fun old hold => ?_
    by_cases same : old.id = e.id
    · rw [List.inj_on_of_nodup_map hs.nodup hold he same]
      simp [he']
    · simp [same, id_eq]
  · intro d hd
    rw [sold]
    rcases mem_replace hd with rfl | ⟨hd, other⟩
    · rw [id_eq, if_pos rfl]
      exact (h.honours e he).reserve taken
    · rw [if_neg (fun same => other (same.symm.trans id_eq.symm)), List.append_nil]
      exact h.honours d hd
  · intro k unknown
    rw [find?_eq_none_iff, list_replace] at unknown
    have other : e.id ≠ k := by
      rintro rfl
      exact unknown (List.mem_map_of_mem he)
    rw [sold, if_neg other, List.append_nil]
    exact h.unopened k (find?_eq_none_iff.2 unknown)

/-- Each call keeps the store in agreement with the log, now longer by one entry. -/
theorem Agrees.effect (h : s.Agrees log) (hs : s.Sound) {t : Store} {c : Call} {a : Answer}
    (he : Effect s c a t) : t.Agrees (log ++ [(c, a)]) := by
  cases he with
  | created absent => exact h.created absent
  | reserved found taken =>
    obtain ⟨he, rfl⟩ := mem_of_find? found
    exact h.reserved hs he taken
  | notCreated | notReserved | viewed | listed | dumped => exact h.silent rfl fun _ => rfl

/-- What calls were made and what was answered. -/
def logOf (s : Store) (calls : List Call) : Log := calls.zip (s.performAll calls).1

theorem agrees_performAll (hs : s.Sound) (h : s.Agrees log) (calls : List Call) :
    (s.performAll calls).2.Agrees (log ++ s.logOf calls) := by
  induction calls generalizing s log with
  | nil =>
    show s.Agrees (log ++ [])
    rwa [List.append_nil]
  | cons c calls ih =>
    have one := h.effect hs (effect_perform s c)
    have all := ih (hs.effect (effect_perform s c)) one
    rwa [List.append_assoc] at all

theorem Reachable.agrees (hs : s.Reachable) : ∃ log, s.Agrees log := by
  induction hs with
  | empty maxEventSeats accessDelay => exact ⟨[], agrees_empty maxEventSeats accessDelay⟩
  | @perform s hs c ih =>
    obtain ⟨log, agrees⟩ := ih
    exact ⟨_, agrees.effect hs.sound (effect_perform s c)⟩

/-! ## What is told after any calls -/

/-- What a store tells about an event of which these sales were made. -/
structure Tells (s : Store) (o : Opening) (sold : List Sale) : Prop where
  /-- The event's counter counts the sales. -/
  counted : ∃ e, s.find? o.id = some e ∧ e.reservations.toNat = sold.length
  /-- The first sale was answered 1, the next 2, and so on. -/
  numbered : sold.map (·.number.toNat) = List.range' 1 sold.length
  filled : ∀ sale ∈ sold, sale.seats ≠ [] ∧ ∀ seat ∈ sale.seats, seat.within o.rows o.cols = true
  /-- No seat is sold twice. -/
  apart : sold.Pairwise fun a b => a.seats.Disjoint b.seats
  /-- The event is shown with the seats as they were sold, alone and in a dump, which has each event
  of the list once and this one as it is shown alone. -/
  shown : ∃ shot, s.snapshot o.id = .ok shot ∧
    (∃ shots, s.dump = .ok shots ∧ shots.map (·.id) = s.list ∧ shot ∈ shots ∧
      ∀ other ∈ shots, other.id = o.id → other = shot) ∧
    (shot.id = o.id ∧ shot.rows = o.rows ∧ shot.cols = o.cols) ∧
    (∀ sale ∈ sold, ∀ seat ∈ sale.seats, shot.seat seat = some sale.number) ∧
    ∀ seat : Seat, seat.within o.rows o.cols = true → (∀ sale ∈ sold, seat ∉ sale.seats) →
      shot.seat seat = some 0

theorem Agrees.tells (h : s.Agrees log) (hs : s.Sound) {o : Opening} (ho : o ∈ openings log) :
    s.Tells o (sales o.id log) := by
  rw [← h.opened] at ho
  obtain ⟨e, he, rfl⟩ := List.mem_map.1 ho
  have found := find?_of_mem hs.nodup he
  have honours := h.honours e he
  refine ⟨⟨e, found, honours.count⟩, honours.numbered, honours.filled, honours.apart,
    e.shot, hs.snapshot found, ?_, ⟨rfl, rfl, rfl⟩, ?_, ?_⟩
  · obtain ⟨shots, dumped, ids, each⟩ := hs.dump
    have alike : ∀ shot ∈ shots, shot.id = e.id → shot = e.shot := by
      intro shot hshot same
      have told := each shot hshot
      rw [same, hs.snapshot found] at told
      exact (Except.ok.inj told).symm
    obtain ⟨shot, hshot, same⟩ : ∃ shot ∈ shots, shot.id = e.id := by
      rw [← List.mem_map, ids]
      exact List.mem_map_of_mem he
    exact ⟨shots, dumped, ids, alike shot hshot same ▸ hshot, alike⟩
  · intro sale hsale seat hseat
    rw [Event.seat_shot ((honours.filled sale hsale).2 seat hseat)]
    exact honours.held sale hsale seat hseat
  · intro seat inside unsold
    rw [Event.seat_shot inside]
    exact honours.free seat inside unsold

/-- After any calls on a new store the list has the events that were put on sale, each once, and
what is told of an event is the history of its sales.  Only which seats a request names matters for
whether and how it is granted, not how often it names them. -/
theorem performAll_tells (maxEventSeats accessDelay : UInt64) (calls : List Call) :
    let log := (Store.empty maxEventSeats accessDelay).logOf calls
    let s := ((Store.empty maxEventSeats accessDelay).performAll calls).2
    s.list = (openings log).map (·.id) ∧ s.list.Nodup ∧
      (∀ o ∈ openings log, s.Tells o (sales o.id log)) ∧
      ∀ id seats n t, s.reserve id seats = (.ok n, t) ↔ s.reserve id seats.dedup = (.ok n, t) := by
  intro log s
  have hs : s.Sound := (reachable_performAll (.empty maxEventSeats accessDelay) calls).sound
  have h : s.Agrees log :=
    agrees_performAll (sound_empty maxEventSeats accessDelay)
      (agrees_empty maxEventSeats accessDelay) calls
  exact ⟨h.list_eq, hs.nodup, fun o ho => h.tells hs ho, fun id seats n t => reserve_dedup ..⟩

end

attribute [local instance] Platform.x86_64 in
example : ((Store.empty 9 0).performAll
    [.create 7 1 2, .reserve 7 [⟨1, 2⟩, ⟨1, 2⟩], .reserve 7 [⟨1, 1⟩, ⟨1, 2⟩],
      .reserve 7 [⟨1, 1⟩]]).1 =
    [.created (.ok ()), .reserved (.ok 1), .reserved (.error (.seatTaken ⟨1, 2⟩)),
      .reserved (.ok 2)] := by
  rfl

end Store

end BoxOffice
