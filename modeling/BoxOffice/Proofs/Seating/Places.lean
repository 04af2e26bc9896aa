import BoxOffice.Proofs.Seating.Numbers
import Mathlib.Data.Set.Card
/-!
# Seats and their places

The seats of a grid and the places of its markers are the same in number and in order: every seat has a
place, and every place is that of one seat.  Reckoning it never leaves the numbers of 64 bits
(`Seat.exact_offset`), for the last place is one of them.

A snapshot is read by the same reckoning, at whatever time it was taken (`Event.Sound.reserveEach`), so
counting its markers is counting seats (`Snapshot.encard_reserved`).

Main statement: `Event.seats_placed`.
-/

namespace BoxOffice

/-! ## Reckoning in 64 bits -/

namespace Exact

/-- The difference, if it is not below 0. -/
def sub (a b : UInt64) : Option UInt64 := if b ≤ a then some (a - b) else none

/-- The product, if it is a number of 64 bits. -/
def mul (a b : UInt64) : Option UInt64 :=
  if a.toNat * b.toNat < UInt64.size then some (a * b) else none

/-- The sum, if it is a number of 64 bits. -/
def add (a b : UInt64) : Option UInt64 :=
  if a.toNat + b.toNat < UInt64.size then some (a + b) else none

variable {a b : UInt64}

theorem sub_of_le (h : b.toNat ≤ a.toNat) :
    ∃ c, sub a b = some c ∧ c.toNat = a.toNat - b.toNat := by
  have le : b ≤ a := UInt64.le_iff_toNat_le.2 h
  exact ⟨a - b, if_pos le, UInt64.toNat_sub_of_le a b le⟩

theorem mul_of_lt (h : a.toNat * b.toNat < UInt64.size) :
    ∃ c, mul a b = some c ∧ c.toNat = a.toNat * b.toNat :=
  ⟨a * b, if_pos h, (UInt64.toNat_mul a b).trans (Nat.mod_eq_of_lt h)⟩

theorem add_of_lt (h : a.toNat + b.toNat < UInt64.size) :
    ∃ c, add a b = some c ∧ c.toNat = a.toNat + b.toNat :=
  ⟨a + b, if_pos h, (UInt64.toNat_add a b).trans (Nat.mod_eq_of_lt h)⟩

end Exact

/-- Where a seat stands, reckoned in 64 bits; `none` if a step of the reckoning leaves them. -/
def Seat.exactOffset? (seat : Seat) (cols : UInt64) : Option UInt64 := do
  let rows ← Exact.sub seat.row 1
  let before ← Exact.mul rows cols
  let within ← Exact.sub seat.col 1
  Exact.add before within

/-- The place of a seat, reckoned in 64 bits.  Outside the grid there is nothing to reckon. -/
def Event.exactIndex? (e : Event) (seat : Seat) : Option (Option UInt64) :=
  if seat.within e.rows e.cols then (seat.exactOffset? e.cols).map some else some none

/-- In a grid of which 64 bits can count the seats, no place is beyond them. -/
theorem Seat.exact_offset {seat : Seat} {rows cols : UInt64} (inside : seat.within rows cols = true)
    (countable : rows.toNat * cols.toNat < UInt64.size) :
    ∃ place, seat.exactOffset? cols = some place ∧ place.toNat = seat.offset cols := by
  obtain ⟨⟨row_pos, -⟩, col_pos, -⟩ := Seat.within_iff.1 inside
  have placed : (seat.row.toNat - 1) * cols.toNat + (seat.col.toNat - 1) < UInt64.size :=
    Nat.lt_trans (Seat.offset_lt inside) countable
  obtain ⟨row, hrow, row_eq⟩ := Exact.sub_of_le (a := seat.row) (b := 1) row_pos
  obtain ⟨col, hcol, col_eq⟩ := Exact.sub_of_le (a := seat.col) (b := 1) col_pos
  have one : (1 : UInt64).toNat = 1 := rfl
  rw [one] at row_eq col_eq
  rw [← row_eq, ← col_eq] at placed
  obtain ⟨before, hbefore, before_eq⟩ :=
    Exact.mul_of_lt (a := row) (b := cols) (Nat.lt_of_le_of_lt (Nat.le_add_right _ _) placed)
  rw [← before_eq] at placed
  obtain ⟨place, hplace, place_eq⟩ := Exact.add_of_lt placed
  refine ⟨place, ?_, ?_⟩
  · unfold Seat.exactOffset?
    simp only [hrow, hbefore, hcol, Option.bind_eq_bind, Option.bind_some]
    exact hplace
  · rw [place_eq, before_eq, row_eq, col_eq]
    rfl

/-! ## Counting markers -/

/-- To count in a list is to count its places. -/
theorem countP_eq_countP_range {α : Type} (p : α → Bool) (as : List α) :
    as.countP p = (List.range as.length).countP fun i => as[i]?.any p := by
  induction as with
  | nil => rfl
  | cons a as ih =>
    rw [List.countP_cons, ih, List.length_cons, List.range_succ_eq_map, List.countP_cons,
      List.countP_map]
    rfl

namespace Snapshot

/-- The seat is shown, and is not free. -/
def Reserved (s : Snapshot) (seat : Seat) : Prop := ∃ marker, s.seat seat = some marker ∧ marker ≠ 0

variable {s : Snapshot} {seat : Seat}

theorem reserved_iff : s.Reserved seat ↔ seat.within s.rows s.cols = true ∧
    s.markers[seat.offset s.cols]?.any (· ≠ 0) = true := by
  unfold Reserved Snapshot.seat
  split
  · rename_i inside
    simp [inside, Option.any_eq_true]
  · rename_i outside
    simp [outside]

/-- The places of the markers that are counted. -/
def reservedPlaces (s : Snapshot) : Finset Nat :=
  (List.range s.markers.length).toFinset.filter fun i => s.markers[i]?.any (· ≠ 0) = true

theorem mem_reservedPlaces {i : Nat} :
    i ∈ s.reservedPlaces ↔ i < s.markers.length ∧ s.markers[i]?.any (· ≠ 0) = true := by
  unfold reservedPlaces
  rw [Finset.mem_filter, List.mem_toFinset, List.mem_range]

theorem card_reservedPlaces (s : Snapshot) : s.reservedPlaces.card = s.reservedCount := by
  unfold reservedPlaces reservedCount
  rw [List.nodup_range.card_eq_countP, countP_eq_countP_range _ s.markers]
  simp only [Bool.decide_eq_true]

theorem bijOn_offset (fits : s.markers.length = s.rows.toNat * s.cols.toNat) :
    Set.BijOn (·.offset s.cols) {seat | s.Reserved seat} s.reservedPlaces := by
  refine ⟨fun seat reserved => ?_, fun a ha b hb same => ?_, fun i hi => ?_⟩
  · obtain ⟨inside, taken⟩ := reserved_iff.1 reserved
    have lt := Seat.offset_lt inside
    rw [← fits] at lt
    exact Finset.mem_coe.2 (mem_reservedPlaces.2 ⟨lt, taken⟩)
  · exact Seat.offset_inj (reserved_iff.1 ha).1 (reserved_iff.1 hb).1 same
  · obtain ⟨lt, taken⟩ := mem_reservedPlaces.1 (Finset.mem_coe.1 hi)
    rw [fits] at lt
    obtain ⟨seat, inside, rfl⟩ := Seat.exists_offset lt
    exact ⟨seat, reserved_iff.2 ⟨inside, taken⟩, rfl⟩

/-- In a snapshot that fits its grid, what is counted is seats. -/
theorem encard_reserved (fits : s.markers.length = s.rows.toNat * s.cols.toNat) :
    {seat | s.Reserved seat}.encard = s.reservedCount := by
  have placed := bijOn_offset fits
  rw [← placed.injOn.encard_image, placed.image_eq, Set.encard_coe_eq_coe_finsetCard,
    card_reservedPlaces]

end Snapshot

/-! ## An event that seats are reserved of -/

namespace Event

variable {e : Event} {cap : UInt64}

/-- The event after requests for seats have come in, those that it grants and those that it refuses. -/
def reserveEach (e : Event) : List (List Seat) → Event
  | [] => e
  | seats :: requests =>
    match e.reserve seats with
    | .ok (_, after) => after.reserveEach requests
    | .error _ => e.reserveEach requests

/-- One request changes nothing about the grid. -/
theorem Sound.reserve [Platform] (sound : e.Sound cap) {seats : List Seat} {n : UInt32} {after : Event}
    (granted : e.reserve seats = .ok (n, after)) :
    after.Sound cap ∧ after.rows = e.rows ∧ after.cols = e.cols := by
  obtain ⟨-, -, -, -, -, rfl⟩ := reserve_eq_ok_iff.1 granted
  exact ⟨sound.stamp _ _, rfl, rfl⟩

/-- And so do all that come. -/
theorem Sound.reserveEach [Platform] (sound : e.Sound cap) (requests : List (List Seat)) :
    (e.reserveEach requests).Sound cap ∧ (e.reserveEach requests).rows = e.rows ∧
      (e.reserveEach requests).cols = e.cols := by
  induction requests generalizing e with
  | nil => exact ⟨sound, rfl, rfl⟩
  | cons seats requests ih =>
    unfold Event.reserveEach
    split
    · rename_i granted
      obtain ⟨kept, rows, cols⟩ := sound.reserve granted
      obtain ⟨others, rows', cols'⟩ := ih kept
      exact ⟨others, rows'.trans rows, cols'.trans cols⟩
    · exact ih sound

theorem seatIndex_eq_some_iff {seat : Seat} {i : Nat} :
    e.seatIndex seat = some i ↔ seat.within e.rows e.cols = true ∧ i = seat.offset e.cols := by
  unfold seatIndex
  split
  · rename_i inside
    simp [inside, eq_comm]
  · rename_i outside
    simp [outside]

theorem seatIndex_eq_none_iff {seat : Seat} :
    e.seatIndex seat = none ↔ ¬seat.within e.rows e.cols = true := by
  unfold seatIndex
  split
  · rename_i inside
    simp [inside]
  · rename_i outside
    simp [outside]

/-- Each place is that of one seat. -/
theorem existsUnique_seatIndex {i : Nat} (h : i < e.rows.toNat * e.cols.toNat) :
    ∃! seat, e.seatIndex seat = some i := by
  obtain ⟨seat, inside, rfl⟩ := Seat.exists_offset h
  refine ⟨seat, seatIndex_eq_some_iff.2 ⟨inside, rfl⟩, fun other placed => ?_⟩
  obtain ⟨within, same⟩ := seatIndex_eq_some_iff.1 placed
  exact Seat.offset_inj within inside same.symm

/-- The reckoning in 64 bits comes to the same. -/
theorem exactIndex_eq (countable : e.rows.toNat * e.cols.toNat < UInt64.size) (seat : Seat) :
    ∃ place?, e.exactIndex? seat = some place? ∧ place?.map UInt64.toNat = e.seatIndex seat := by
  unfold exactIndex? seatIndex
  by_cases inside : seat.within e.rows e.cols = true
  · obtain ⟨place, reckoned, same⟩ := Seat.exact_offset inside countable
    rw [if_pos inside, if_pos inside, reckoned]
    exact ⟨some place, rfl, congrArg some same⟩
  · rw [if_neg inside, if_neg inside]
    exact ⟨none, rfl, rfl⟩

/-- **Seats and places are the same.**  A new event places the seats of its grid, and no others, each at
a place of its own, so that they fill the places from 0 up to the number of seats; reckoned in 64 bits
the places come out the same.  Whatever is reserved, a snapshot shows a seat exactly if the event has a
place for it, with the marker at this place, and counts as many reservations as there are reserved
seats. -/
theorem seats_placed [Platform] {id : UInt32} {rows cols cap : UInt64}
    (new : bounded id rows cols cap = .ok e) :
    (∀ seat : Seat, e.seatIndex seat = none ↔
      ¬((1 ≤ seat.row.toNat ∧ seat.row.toNat ≤ rows.toNat) ∧
        1 ≤ seat.col.toNat ∧ seat.col.toNat ≤ cols.toNat)) ∧
    (∀ seat i, e.seatIndex seat = some i → i < rows.toNat * cols.toNat) ∧
    (∀ i < rows.toNat * cols.toNat, ∃! seat, e.seatIndex seat = some i) ∧
    (∀ seat, ∃ place?, e.exactIndex? seat = some place? ∧
      place?.map UInt64.toNat = e.seatIndex seat) ∧
    ∀ requests, ∃ shot, (e.reserveEach requests).snapshot = .ok shot ∧
      (∀ seat, shot.seat seat = none ↔ e.seatIndex seat = none) ∧
      (∀ seat i, e.seatIndex seat = some i → shot.seat seat = shot.markers[i]?) ∧
      {seat | ∃ marker, shot.seat seat = some marker ∧ marker ≠ 0}.encard = shot.reservedCount := by
  obtain ⟨admissible, rfl⟩ := bounded_eq_ok_iff.1 new
  refine ⟨fun seat => ?_, fun seat i placed => ?_, fun i h => existsUnique_seatIndex h,
    exactIndex_eq admissible.exact_size, fun requests => ?_⟩
  · rw [seatIndex_eq_none_iff, Seat.within_iff]
    rfl
  · obtain ⟨inside, rfl⟩ := seatIndex_eq_some_iff.1 placed
    exact Seat.offset_lt inside
  · have whole : (fresh id rows cols).Sound cap := sound_fresh admissible
    obtain ⟨sound, hrows, hcols⟩ := whole.reserveEach requests
    generalize (fresh id rows cols).reserveEach requests = e at sound hrows hcols
    refine ⟨e.shot, snapshot_eq_ok sound.fits, fun seat => ?_, fun seat i placed => ?_,
      Snapshot.encard_reserved sound.size⟩
    · rw [seatIndex_eq_none_iff, ← hrows, ← hcols]
      exact Snapshot.seat_eq_none_iff sound.size
    · obtain ⟨inside, rfl⟩ := seatIndex_eq_some_iff.1 placed
      rw [← hrows, ← hcols] at inside
      rw [← hcols]
      exact Snapshot.seat_of_within inside

attribute [local instance] Platform.x86_64 in
/-- Two rows of three seats, of which three are taken in two requests and asked for in vain in another. -/
theorem seats_placed_two_rows :
    let e := fresh 7 2 3
    let requests : List (List Seat) := [[⟨1, 1⟩, ⟨2, 3⟩], [⟨2, 2⟩, ⟨1, 1⟩], [⟨1, 2⟩]]
    bounded 7 2 3 6 = .ok e ∧ e.seatIndex ⟨0, 1⟩ = none ∧
      e.seatIndex ⟨0xFFFFFFFFFFFFFFFF, 1⟩ = none ∧ (∃! seat, e.seatIndex seat = some 5) ∧
      (∃ place?, e.exactIndex? ⟨2, 3⟩ = some place? ∧ place?.map UInt64.toNat = some 5) ∧
      ∃ shot, (e.reserveEach requests).snapshot = .ok shot ∧ shot.seat ⟨2, 3⟩ = shot.markers[5]? ∧
        {seat | ∃ marker, shot.seat seat = some marker ∧ marker ≠ 0}.encard = (3 : Nat) := by
  intro e requests
  have new : bounded 7 2 3 6 = .ok e := by decide
  obtain ⟨outside, -, placed, reckoned, shown⟩ := seats_placed new
  obtain ⟨shot, told, -, marker, counted⟩ := shown requests
  have taken : (e.reserveEach requests).snapshot.map (·.reservedCount) = .ok 3 := by decide
  rw [told] at taken
  have three : shot.reservedCount = 3 := Except.ok.inj taken
  rw [three] at counted
  exact ⟨new, (outside _).2 (by decide), (outside _).2 (by decide), placed 5 (by decide),
    reckoned ⟨2, 3⟩, shot, told, marker ⟨2, 3⟩ 5 (by decide), counted⟩

end Event

end BoxOffice
