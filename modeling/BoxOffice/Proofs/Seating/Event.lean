import BoxOffice.Seating.Event
/-!
# What an event does

Seats stand in row-major order without sharing a place (`Seat.offset_lt`, `Seat.offset_inj`), so an
event can be spoken of seat by seat:

* `Event.bounded_eq_ok_iff`: when a new event is given, and which;
* `Event.reserve_eq_ok_iff`: when seats are reserved, and what becomes of the event;
* `Event.reserve_eq_error_iff`: why seats are refused, which is told of the first that cannot be had;
* `Event.getElem?_stamp`: the markers after a reservation, one by one.
-/

namespace BoxOffice

/-! ## Places -/

theorem ne_zero_iff_one_le {n : UInt64} : n ≠ 0 ↔ 1 ≤ n.toNat := by
  rw [ne_eq, ← UInt64.toNat_inj]
  show ¬ n.toNat = 0 ↔ _
  omega

theorem Seat.within_iff {seat : Seat} {rows cols : UInt64} :
    seat.within rows cols = true ↔
      (1 ≤ seat.row.toNat ∧ seat.row.toNat ≤ rows.toNat) ∧
        1 ≤ seat.col.toNat ∧ seat.col.toNat ≤ cols.toNat := by
  unfold Seat.within
  simp only [Bool.and_eq_true, decide_eq_true_eq, ne_zero_iff_one_le, UInt64.le_iff_toNat_le]
  omega

/-- A seat of the grid has its place among as many as there are seats. -/
theorem Seat.offset_lt {seat : Seat} {rows cols : UInt64} (h : seat.within rows cols = true) :
    seat.offset cols < rows.toNat * cols.toNat := by
  obtain ⟨⟨h1, h2⟩, h3, h4⟩ := Seat.within_iff.1 h
  obtain ⟨r, hr⟩ := Nat.exists_eq_add_of_le' h1
  have up : (r + 1) * cols.toNat ≤ rows.toNat * cols.toNat :=
    Nat.mul_le_mul_right _ (by omega)
  rw [Nat.add_mul] at up
  unfold Seat.offset
  rw [hr, Nat.add_sub_cancel]
  omega

/-- No two seats of a grid share a place. -/
theorem Seat.offset_inj {a b : Seat} {rows cols : UInt64} (ha : a.within rows cols = true)
    (hb : b.within rows cols = true) (h : a.offset cols = b.offset cols) : a = b := by
  obtain ⟨⟨ha1, -⟩, ha3, ha4⟩ := Seat.within_iff.1 ha
  obtain ⟨⟨hb1, -⟩, hb3, hb4⟩ := Seat.within_iff.1 hb
  have pos : 0 < cols.toNat := by omega
  have col_lt : ∀ n, 1 ≤ n → n ≤ cols.toNat → n - 1 < cols.toNat := by
    intro n _ _
    omega
  unfold Seat.offset at h
  -- dividing by the width of the grid gives the row, and what is left over is the column
  have hrow := congrArg (· / cols.toNat) h
  have hcol := congrArg (· % cols.toNat) h
  simp only [Nat.mul_comm _ cols.toNat, Nat.mul_add_div pos, Nat.mul_add_mod_self_left,
    Nat.div_eq_of_lt (col_lt _ ha3 ha4), Nat.div_eq_of_lt (col_lt _ hb3 hb4),
    Nat.mod_eq_of_lt (col_lt _ ha3 ha4), Nat.mod_eq_of_lt (col_lt _ hb3 hb4)] at hrow hcol
  have row_eq : a.row = b.row := by
    apply UInt64.toNat_inj.1
    omega
  have col_eq : a.col = b.col := by
    apply UInt64.toNat_inj.1
    omega
  cases a
  cases b
  rw [Seat.mk.injEq]
  exact ⟨row_eq, col_eq⟩

namespace Snapshot

variable {s : Snapshot} {seat : Seat}

theorem seat_of_within (inside : seat.within s.rows s.cols = true) :
    s.seat seat = s.markers[seat.offset s.cols]? := by
  unfold Snapshot.seat
  rw [if_pos inside]

/-- A snapshot that has a marker for each seat shows the seats of its grid. -/
theorem seat_eq_none_iff (fits : s.markers.length = s.rows.toNat * s.cols.toNat) :
    s.seat seat = none ↔ ¬seat.within s.rows s.cols = true := by
  unfold Snapshot.seat
  split
  · rename_i inside
    have lt := Seat.offset_lt inside
    rw [← fits] at lt
    simp [inside, lt]
  · rename_i outside
    simp [outside]

end Snapshot

namespace Event

/-! ## A new event -/

/-- An event can have this grid: there are seats, not too many, and there is memory for all. -/
structure Admissible [Platform] (rows cols cap : UInt64) : Prop where
  rows_ne_zero : rows ≠ 0
  cols_ne_zero : cols ≠ 0
  exact_size : rows.toNat * cols.toNat < UInt64.size
  size_le_cap : rows.toNat * cols.toNat ≤ cap.toNat
  memory : Memory.refusal? (rows.toNat * cols.toNat) 4 = none

/-- An event on which nothing is reserved. -/
def fresh (id : UInt32) (rows cols : UInt64) : Event where
  id := id
  rows := rows
  cols := cols
  markers := Array.replicate (rows.toNat * cols.toNat) 0
  reservations := 0

theorem bounded_eq_ok_iff [Platform] {id : UInt32} {rows cols cap : UInt64} {e : Event} :
    bounded id rows cols cap = .ok e ↔ Admissible rows cols cap ∧ e = fresh id rows cols := by
  unfold bounded
  constructor
  · intro h
    split at h
    · cases h
    · rename_i dims
      simp only [Bool.or_eq_true, decide_eq_true_eq, not_or] at dims
      dsimp only at h
      split at h
      · cases h
      · split at h
        · cases h
        · split at h
          · cases h
          · rename_i exact_size under_cap memory
            cases h
            exact ⟨⟨dims.1, dims.2, by omega, by omega, memory⟩, rfl⟩
  · rintro ⟨h, rfl⟩
    have dims : ¬ (decide (rows = 0) || decide (cols = 0)) = true := by
      simp [h.rows_ne_zero, h.cols_ne_zero]
    have exact_size := h.exact_size
    have under_cap := h.size_le_cap
    rw [if_neg dims]
    dsimp only
    rw [if_neg (by omega), if_neg (by omega), h.memory]
    rfl

/-! ## A reservation -/

/-- The seat is in the grid and nobody has it. -/
def HasFree (e : Event) (seat : Seat) : Prop :=
  seat.within e.rows e.cols = true ∧ e.markers[seat.offset e.cols]? = some 0

theorem freeIndex_eq_ok_iff {e : Event} {seat : Seat} {i : Nat} :
    e.freeIndex seat = .ok i ↔ e.HasFree seat ∧ i = seat.offset e.cols := by
  unfold freeIndex seatIndex HasFree
  by_cases inside : seat.within e.rows e.cols = true
  · simp only [inside, if_true, true_and]
    cases at_place : e.markers[seat.offset e.cols]? with
    | none => simp
    | some marker =>
      by_cases free : marker = 0
      · simp [free, eq_comm]
      · simp [free]
  · simp [inside]

theorem freeIndices_eq_ok_iff {e : Event} {seats : List Seat} {places : List Nat} :
    e.freeIndices seats = .ok places ↔
      (∀ seat ∈ seats, e.HasFree seat) ∧ places = seats.map (·.offset e.cols) := by
  induction seats generalizing places with
  | nil => simp [freeIndices, eq_comm]
  | cons seat seats ih =>
    unfold freeIndices
    constructor
    · intro h
      split at h
      · cases h
      · rename_i i hi
        split at h
        · cases h
        · rename_i is his
          cases h
          obtain ⟨free, rfl⟩ := freeIndex_eq_ok_iff.1 hi
          obtain ⟨rest, rfl⟩ := ih.1 his
          exact ⟨List.forall_mem_cons.2 ⟨free, rest⟩, rfl⟩
    · rintro ⟨free, rfl⟩
      rw [freeIndex_eq_ok_iff.2 ⟨free seat List.mem_cons_self, rfl⟩]
      dsimp only
      rw [ih.2 ⟨fun s hs => free s (List.mem_cons_of_mem _ hs), rfl⟩]
      rfl

/-- Seats are reserved when there are some, all of them are free, and there is a number left. -/
theorem reserve_eq_ok_iff {e e' : Event} {seats : List Seat} {n : UInt32} :
    e.reserve seats = .ok (n, e') ↔
      seats ≠ [] ∧ e.fits = true ∧ (∀ seat ∈ seats, e.HasFree seat) ∧
        e.reservations.toNat + 1 < UInt32.size ∧ n = e.reservations + 1 ∧
        e' = e.stamp n (seats.map (·.offset e.cols)) := by
  unfold reserve
  constructor
  · intro h
    split at h
    · cases h
    · rename_i some_seats
      split at h
      · cases h
      · rename_i fits
        split at h
        · cases h
        · rename_i places found
          split at h
          · rename_i number_left
            obtain ⟨free, rfl⟩ := freeIndices_eq_ok_iff.1 found
            cases h
            exact ⟨by simpa using some_seats, by simpa using fits, free, number_left, rfl, rfl⟩
          · cases h
  · rintro ⟨some_seats, fits, free, number_left, rfl, rfl⟩
    rw [if_neg (by simpa using some_seats), if_neg (by simpa using fits),
      freeIndices_eq_ok_iff.2 ⟨free, rfl⟩]
    dsimp only
    rw [if_pos number_left]

/-- An event with seats reserved is still the same event. -/
theorem id_of_reserve {e e' : Event} {seats : List Seat} {n : UInt32}
    (h : e.reserve seats = .ok (n, e')) : e'.id = e.id := by
  obtain ⟨-, -, -, -, -, rfl⟩ := reserve_eq_ok_iff.1 h
  exact stamp_id ..

/-- Stamping writes the number at the places and nothing elsewhere. -/
theorem getElem?_stamp (e : Event) (n : UInt32) (places : List Nat) (i : Nat) :
    (e.stamp n places).markers[i]? =
      if i ∈ places ∧ i < e.markers.size then some n else e.markers[i]? := by
  show (places.foldl _ e.markers)[i]? = _
  generalize e.markers = markers
  induction places generalizing markers with
  | nil => simp
  | cons place places ih =>
    rw [List.foldl_cons, ih, Array.size_setIfInBounds]
    by_cases inside : i < markers.size
    · by_cases later : i ∈ places
      · simp [inside, later]
      · by_cases here : place = i
        · simp [here, inside, later]
        · have : i ≠ place := fun h => here h.symm
          simp [inside, later, here, this]
    · simp only [inside, and_false, if_false]
      rw [Array.getElem?_eq_none (by rw [Array.size_setIfInBounds]; omega),
        Array.getElem?_eq_none (by omega)]

/-- Stamping asks only which places there are. -/
theorem stamp_congr (e : Event) (n : UInt32) {places others : List Nat}
    (h : ∀ i, i ∈ places ↔ i ∈ others) : e.stamp n places = e.stamp n others := by
  have markers : (e.stamp n places).markers = (e.stamp n others).markers := by
    apply Array.ext_getElem?
    intro i
    rw [getElem?_stamp, getElem?_stamp]
    simp only [h]
  calc e.stamp n places
      = { e with reservations := n, markers := (e.stamp n places).markers } := rfl
    _ = { e with reservations := n, markers := (e.stamp n others).markers } := by rw [markers]
    _ = e.stamp n others := rfl

/-- Requests that name the same seats are granted alike. -/
theorem reserve_congr (e : Event) {seats others : List Seat}
    (h : ∀ seat, seat ∈ seats ↔ seat ∈ others) (result : UInt32 × Event) :
    e.reserve seats = .ok result ↔ e.reserve others = .ok result := by
  have places : ∀ i, i ∈ seats.map (·.offset e.cols) ↔ i ∈ others.map (·.offset e.cols) := by
    intro i
    simp only [List.mem_map, h]
  have named : seats ≠ [] ↔ others ≠ [] := by
    simp only [ne_eq, List.eq_nil_iff_forall_not_mem, h]
  rw [reserve_eq_ok_iff, reserve_eq_ok_iff, named, stamp_congr e _ places]
  simp only [h]

/-! ## A refusal -/

/-- Why a seat cannot be had: there is no such seat, or else it is taken. -/
inductive Refuses (e : Event) (seat : Seat) : Fault → Prop
  | outside (outside : seat.within e.rows e.cols = false) : Refuses e seat (.seatOutOfBounds seat)
  | taken {marker : UInt32} (inside : seat.within e.rows e.cols = true)
      (held : e.markers[seat.offset e.cols]? = some marker) (taken : marker ≠ 0) :
      Refuses e seat (.seatTaken seat)

/-- A seat of the grid has a marker. -/
theorem offset_lt_size {e : Event} (fits : e.fits = true) {seat : Seat}
    (inside : seat.within e.rows e.cols = true) : seat.offset e.cols < e.markers.size := by
  have size : e.rows.toNat * e.cols.toNat = e.markers.size := beq_iff_eq.1 fits
  rw [← size]
  exact Seat.offset_lt inside

theorem freeIndex_eq_error_iff {e : Event} (fits : e.fits = true) {seat : Seat} {fault : Fault} :
    e.freeIndex seat = .error fault ↔ e.Refuses seat fault := by
  unfold freeIndex seatIndex
  by_cases inside : seat.within e.rows e.cols = true
  · have held := Array.getElem?_eq_getElem (offset_lt_size fits inside)
    rw [if_pos inside]
    dsimp only
    rw [held]
    dsimp only
    split
    · rename_i free
      constructor
      · intro h
        cases h
      rintro (outside | ⟨-, held', taken⟩)
      · cases inside.symm.trans outside
      · exact absurd ((Option.some.inj (held'.symm.trans held)).trans free) taken
    · rename_i taken
      constructor
      · rintro ⟨⟩
        exact .taken inside held taken
      · rintro (outside | -)
        · cases inside.symm.trans outside
        · rfl
  · rw [if_neg inside]
    constructor
    · rintro ⟨⟩
      exact .outside (Bool.not_eq_true _ ▸ inside)
    · rintro (- | ⟨inside', -, -⟩)
      · rfl
      · exact absurd inside' inside

theorem freeIndices_cons_eq_error_iff {e : Event} {seat : Seat} {seats : List Seat}
    {fault : Fault} :
    e.freeIndices (seat :: seats) = .error fault ↔
      e.freeIndex seat = .error fault ∨ e.HasFree seat ∧ e.freeIndices seats = .error fault := by
  rw [freeIndices]
  cases found : e.freeIndex seat with
  | error fault' =>
    have taken : ¬ e.HasFree seat := by
      intro free
      cases found.symm.trans (freeIndex_eq_ok_iff.2 ⟨free, rfl⟩)
    simp [taken]
  | ok i =>
    have free := (freeIndex_eq_ok_iff.1 found).1
    cases e.freeIndices seats with
    | error fault' => simp [free]
    | ok places => simp

/-- The first seat that cannot be had is the one that is told of. -/
theorem freeIndices_eq_error_iff {e : Event} (fits : e.fits = true) {seats : List Seat}
    {fault : Fault} :
    e.freeIndices seats = .error fault ↔ ∃ before seat after, seats = before ++ seat :: after ∧
      (∀ other ∈ before, e.HasFree other) ∧ e.Refuses seat fault := by
  induction seats with
  | nil =>
    constructor
    · intro h
      cases h
    · rintro ⟨before, seat, after, split, -⟩
      cases before <;> cases split
  | cons first seats ih =>
    rw [freeIndices_cons_eq_error_iff, ih, freeIndex_eq_error_iff fits]
    constructor
    · rintro (refused | ⟨free, before, seat, after, rfl, others, refused⟩)
      · exact ⟨[], first, seats, rfl, fun _ h => absurd h List.not_mem_nil, refused⟩
      · exact ⟨first :: before, seat, after, rfl, List.forall_mem_cons.2 ⟨free, others⟩, refused⟩
    · rintro ⟨before, seat, after, split, free, refused⟩
      cases before with
      | nil =>
        obtain ⟨rfl, -⟩ := List.cons.inj split
        exact .inl refused
      | cons other before =>
        obtain ⟨rfl, rfl⟩ := List.cons.inj split
        obtain ⟨free, others⟩ := List.forall_mem_cons.1 free
        exact .inr ⟨free, before, seat, after, rfl, others, refused⟩

/-- While there are numbers left, seats are refused if there are none, or for the first of them that
cannot be had. -/
theorem reserve_eq_error_iff {e : Event} (fits : e.fits = true)
    (number_left : e.reservations.toNat + 1 < UInt32.size) {seats : List Seat} {fault : Fault} :
    e.reserve seats = .error fault ↔
      seats = [] ∧ fault = .emptyReservation ∨
        ∃ before seat after, seats = before ++ seat :: after ∧
          (∀ other ∈ before, e.HasFree other) ∧ e.Refuses seat fault := by
  rw [← freeIndices_eq_error_iff fits]
  unfold reserve
  rw [fits]
  cases seats with
  | nil => simp [freeIndices, eq_comm]
  | cons seat seats =>
    cases e.freeIndices (seat :: seats) with
    | error fault' => simp
    | ok places => simp [number_left]

/-! ## What is told -/

/-- The event as it is told about. -/
def shot (e : Event) : Snapshot where
  id := e.id
  rows := e.rows
  cols := e.cols
  markers := e.markers.toList

theorem snapshot_eq_ok {e : Event} (h : e.fits = true) : e.snapshot = .ok e.shot := by
  unfold snapshot
  rw [if_pos h]
  rfl

/-- A seat of the grid is shown with the marker at its place. -/
theorem seat_shot {e : Event} {seat : Seat} (h : seat.within e.rows e.cols = true) :
    e.shot.seat seat = e.markers[seat.offset e.cols]? := by
  show (if seat.within e.rows e.cols then e.markers.toList[seat.offset e.cols]? else none) = _
  rw [if_pos h, Array.getElem?_toList]

end Event

end BoxOffice
