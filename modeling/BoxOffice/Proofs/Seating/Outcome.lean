import BoxOffice.Proofs.Seating.Apart
import BoxOffice.Proofs.Seating.Numbers
/-!
# All seats or none

What comes of asking for seats is settled by the event and the list of seats.  Either the request is
refused, for the first thing that is wrong with it (`Store.Refuses`), and nothing has happened; or all
of the seats are sold under a new number, and nothing else has happened (`Store.Sells`).

Main statement: `Store.Reachable.reserve_outcome`.
-/

namespace BoxOffice

namespace Event

variable {e : Event} {cap : UInt64}

/-- A seat is shown as it was, unless it is sold. -/
theorem seat_stamp (fits : e.fits = true) (n : UInt32) {seats : List Seat}
    (inside : ∀ seat ∈ seats, seat.within e.rows e.cols = true) (seat : Seat) :
    (e.stamp n (seats.map (·.offset e.cols))).shot.seat seat =
      if seat ∈ seats then some n else e.shot.seat seat := by
  by_cases within : seat.within e.rows e.cols = true
  · have here : seat.offset e.cols ∈ seats.map (·.offset e.cols) ↔ seat ∈ seats := by
      rw [List.mem_map]
      constructor
      · rintro ⟨other, hother, same⟩
        exact Seat.offset_inj (inside other hother) within same ▸ hother
      · exact fun h => ⟨seat, h, rfl⟩
    have placed := offset_lt_size fits within
    rw [seat_shot (e := e.stamp _ _) within, seat_shot within, stamp_cols, getElem?_stamp]
    simp only [here, placed, and_true]
  · have absent : seat ∉ seats := fun h => within (inside seat h)
    rw [if_neg absent]
    show (if seat.within e.rows e.cols then _ else none) =
      if seat.within e.rows e.cols then _ else none
    rw [if_neg within, if_neg within]

/-- A number that was not given out is on no seat. -/
theorem Numbered.seat_ne (h : e.Numbered) {n : UInt32} (new : e.reservations.toNat < n.toNat)
    (seat : Seat) : e.shot.seat seat ≠ some n := by
  intro held
  have listed : n ∈ e.markers := by
    unfold Snapshot.seat at held
    split at held
    · exact Array.mem_toList_iff.1 (List.mem_of_getElem? held)
    · cases held
  exact absurd (h.marker_le n listed) (Nat.not_le.2 new)

end Event

namespace Store

/-- Why seats of an event are not to be had: the first of these that is the case. -/
inductive Refuses (s : Store) (id : UInt32) : List Seat → Fault → Prop
  | noEvent {seats : List Seat} (absent : s.find? id = none) :
      Refuses s id seats (.eventNotFound id)
  | noSeats {e : Event} (found : s.find? id = some e) : Refuses s id [] .emptyReservation
  | seat {e : Event} {before after : List Seat} {seat : Seat} {fault : Fault}
      (found : s.find? id = some e) (free : ∀ other ∈ before, e.HasFree other)
      (refused : e.Refuses seat fault) : Refuses s id (before ++ seat :: after) fault

/-- `s` becomes `t` by selling seats of the event `e`, which becomes `e'`, under the number `n`. -/
structure Sells (s t : Store) (e : Event) (seats : List Seat) (n : UInt32) (e' : Event) : Prop where
  found : t.find? e.id = some e'
  number : n.toNat = e.reservations.toNat + 1
  counter : e'.reservations = n
  same : e'.id = e.id ∧ e'.rows = e.rows ∧ e'.cols = e.cols ∧ e'.markers.size = e.markers.size
  /-- The seats bear the number, and all other seats what they bore. -/
  seat : ∀ seat, e'.shot.seat seat = if seat ∈ seats then some n else e.shot.seat seat
  /-- No other seat bears the number. -/
  only : ∀ seat, e'.shot.seat seat = some n ↔ seat ∈ seats
  list : t.list = s.list
  /-- The other events stand where they stood, as they were. -/
  others : ∀ (i : Nat) (d : Event), d.id ≠ e.id → (t.events[i]? = some d ↔ s.events[i]? = some d)
  maxEventSeats : t.maxEventSeats = s.maxEventSeats
  accessDelay : t.accessDelay = s.accessDelay

variable {s t : Store} {id : UInt32} {seats : List Seat}

/-- Where another event stands, nothing changes. -/
theorem getElem?_replace {e e' d : Event} (same : e'.id = e.id) (other : d.id ≠ e.id) (i : Nat) :
    (s.replace e').events[i]? = some d ↔ s.events[i]? = some d := by
  unfold replace
  rw [List.getElem?_map]
  cases s.events[i]? with
  | none => simp
  | some old =>
    by_cases h : old.id = e.id
    · have ne : e' ≠ d := fun eq => other (eq ▸ same)
      have ne' : old ≠ d := fun eq => other (eq ▸ h)
      simp [same, h, ne, ne']
    · simp [same, h]

section

variable [Platform]

theorem Reachable.sells (hs : s.Reachable) {e e' : Event} {n : UInt32}
    (found : s.find? id = some e) (sold : e.reserve seats = .ok (n, e')) :
    s.Sells (s.replace e') e seats n e' := by
  obtain ⟨he, hid⟩ := mem_of_find? found
  obtain ⟨-, fits, free, number_left, rfl, rfl⟩ := Event.reserve_eq_ok_iff.1 sold
  have number : (e.reservations + 1).toNat = e.reservations.toNat + 1 := by
    rw [UInt32.toNat_add]
    exact Nat.mod_eq_of_lt number_left
  have shown := e.seat_stamp fits (e.reservations + 1) fun seat h => (free seat h).1
  refine
    { found := find?_replace_self (hid ▸ found) rfl
      number := number
      counter := rfl
      same := ⟨rfl, rfl, rfl, Event.size_stamp ..⟩
      seat := shown
      only := ?_
      list := list_replace ..
      others := fun i d other => getElem?_replace (Event.stamp_id ..) other i
      maxEventSeats := rfl
      accessDelay := rfl }
  intro seat
  rw [shown]
  have new := (hs.numbered he).seat_ne (n := e.reservations + 1) (by omega) seat
  by_cases listed : seat ∈ seats
  · simp [listed]
  · simp [listed, new]

omit [Platform] in
/-- Where there is an event, it is the event that refuses. -/
theorem refuses_iff {e : Event} (found : s.find? id = some e) (fits : e.fits = true)
    (number_left : e.reservations.toNat + 1 < UInt32.size) {fault : Fault} :
    s.Refuses id seats fault ↔ e.reserve seats = .error fault := by
  rw [Event.reserve_eq_error_iff fits number_left]
  constructor
  · rintro (absent | _ | ⟨found', free, refused⟩)
    · cases found.symm.trans absent
    · exact .inl ⟨rfl, rfl⟩
    · cases found.symm.trans found'
      exact .inr ⟨_, _, _, rfl, free, refused⟩
  · rintro (⟨rfl, rfl⟩ | ⟨before, seat, after, rfl, free, refused⟩)
    · exact .noSeats found
    · exact .seat found free refused

theorem Sound.reserve_eq_error_iff (hs : s.Sound)
    (number_left : ∀ e, s.find? id = some e → e.reservations.toNat + 1 < UInt32.size)
    {fault : Fault} :
    s.reserve id seats = (.error fault, t) ↔ t = s ∧ s.Refuses id seats fault := by
  unfold reserve
  cases found : s.find? id with
  | none =>
    have unknown : s.lookup id = .error (.eventNotFound id) := by
      unfold lookup
      rw [found]
    rw [unknown]
    constructor
    · rintro ⟨⟩
      exact ⟨rfl, .noEvent found⟩
    · rintro ⟨rfl, _ | found' | ⟨found', -, -⟩⟩
      · rfl
      · cases found.symm.trans found'
      · cases found.symm.trans found'
  | some e =>
    have fits := (hs.events e (mem_of_find? found).1).fits
    rw [lookup_eq_ok_iff.2 found, refuses_iff found fits (number_left e found)]
    dsimp only
    cases e.reserve seats with
    | error fault' => simp [eq_comm, and_comm]
    | ok sold => simp

/-- Seats are sold if there is an event and there are some, all of them free; and then nothing else
changes.  They are refused otherwise, for the first thing that is wrong, and then nothing changes. -/
theorem Reachable.reserve_outcome (hs : s.Reachable) (id : UInt32) (seats : List Seat)
    (number_left : ∀ e, s.find? id = some e → e.reservations.toNat + 1 < UInt32.size) :
    ((∃ n t, s.reserve id seats = (.ok n, t)) ↔
        ∃ e, s.find? id = some e ∧ seats ≠ [] ∧ ∀ seat ∈ seats, e.HasFree seat) ∧
      (∀ fault t, s.reserve id seats = (.error fault, t) ↔ t = s ∧ s.Refuses id seats fault) ∧
      ∀ n t, s.reserve id seats = (.ok n, t) →
        ∃ e e', s.find? id = some e ∧ s.Sells t e seats n e' := by
  refine ⟨⟨?_, ?_⟩, fun fault t => hs.sound.reserve_eq_error_iff number_left, ?_⟩
  · rintro ⟨n, t, sold⟩
    obtain ⟨e, e', found, sold, -⟩ := reserve_eq_ok_iff.1 sold
    obtain ⟨some_seats, -, free, -⟩ := Event.reserve_eq_ok_iff.1 sold
    exact ⟨e, found, some_seats, free⟩
  · rintro ⟨e, found, some_seats, free⟩
    have fits := (hs.sound.events e (mem_of_find? found).1).fits
    have sold := Event.reserve_eq_ok_iff.2
      ⟨some_seats, fits, free, number_left e found, rfl, rfl⟩
    exact ⟨_, _, reserve_eq_ok_iff.2 ⟨e, _, found, sold, rfl⟩⟩
  · intro n t sold
    obtain ⟨e, e', found, taken, rfl⟩ := reserve_eq_ok_iff.1 sold
    exact ⟨e, e', found, hs.sells found taken⟩

end

attribute [local instance] Platform.x86_64 in
/-- One seat of two is sold.  The other is wanted twice over, and then with the first one and with one
that does not exist. -/
theorem Reachable.reserve_outcome_one_free :
    let s := ((Store.empty 4 0).performAll [.create 7 1 2, .reserve 7 [⟨1, 1⟩]]).2
    (∃ n t e e', s.reserve 7 [⟨1, 2⟩, ⟨1, 2⟩] = (.ok n, t) ∧ s.find? 7 = some e ∧
        s.Sells t e [⟨1, 2⟩, ⟨1, 2⟩] n e') ∧
      s.reserve 7 [⟨1, 2⟩, ⟨1, 1⟩, ⟨9, 9⟩] = (.error (.seatTaken ⟨1, 1⟩), s) ∧
      s.reserve 7 [⟨1, 2⟩, ⟨9, 9⟩, ⟨1, 1⟩] = (.error (.seatOutOfBounds ⟨9, 9⟩), s) := by
  intro s
  have reachable : s.Reachable :=
    reachable_performAll (.empty 4 0) [.create 7 1 2, .reserve 7 [⟨1, 1⟩]]
  let e : Event := { id := 7, rows := 1, cols := 2, markers := #[1, 0], reservations := 1 }
  have found : s.find? 7 = some e := by decide
  have number_left : ∀ e, s.find? 7 = some e → e.reservations.toNat + 1 < UInt32.size := by
    intro d hd
    cases found.symm.trans hd
    decide
  have free : ∀ other ∈ [(⟨1, 2⟩ : Seat)], e.HasFree other := by
    intro other h
    rw [List.mem_singleton.1 h]
    exact ⟨by decide, by decide⟩
  obtain ⟨sold, -, sells⟩ := reachable.reserve_outcome 7 [⟨1, 2⟩, ⟨1, 2⟩] number_left
  have refused := fun seats => (reachable.reserve_outcome 7 seats number_left).2.1
  have taken : e.Refuses ⟨1, 1⟩ (.seatTaken ⟨1, 1⟩) :=
    .taken (by decide) (by decide) (by decide : (1 : UInt32) ≠ 0)
  refine ⟨?_, ?_, ?_⟩
  · obtain ⟨n, t, done⟩ := sold.2 ⟨e, found, nofun, by simpa using free⟩
    obtain ⟨d, e', found', how⟩ := sells n t done
    exact ⟨n, t, d, e', done, found', how⟩
  · exact (refused _ _ _).2 ⟨rfl, .seat found free taken⟩
  · exact (refused _ _ _).2 ⟨rfl, .seat found free (.outside (by decide))⟩

end Store

end BoxOffice
