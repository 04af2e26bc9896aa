import BoxOffice.Proofs.Seating.History
import Mathlib.Data.List.Perm.Subperm
/-!
# The numbers on the seats

A number that an event has given out stands on a seat for good, so an event has no more numbers out than
seats reserved (`Event.Numbered.le_reservedCount`).  While it has a free seat, it has a number left
that no other reservation has, unless it has `2 ^ 32` seats or more
(`Event.Numbered.number_left`).

`Event.WellKept` says all of what is kept true of an event.

Main statement: `Store.Reachable.wellKept`.
-/

namespace BoxOffice

/-- Every place in the grid is that of a seat. -/
theorem Seat.exists_offset {rows cols : UInt64} {i : Nat} (h : i < rows.toNat * cols.toNat) :
    ∃ seat : Seat, seat.within rows cols = true ∧ seat.offset cols = i := by
  have wide : 0 < cols.toNat := by
    by_contra none_wide
    have zero : cols.toNat = 0 := by omega
    rw [zero, Nat.mul_zero] at h
    exact Nat.not_lt_zero i h
  have row_lt : i / cols.toNat < rows.toNat := (Nat.div_lt_iff_lt_mul wide).2 h
  have col_lt : i % cols.toNat < cols.toNat := Nat.mod_lt i wide
  have rows_lt : rows.toNat < UInt64.size := rows.toNat_lt
  have cols_lt : cols.toNat < UInt64.size := cols.toNat_lt
  have row : (UInt64.ofNat (i / cols.toNat + 1)).toNat = i / cols.toNat + 1 :=
    UInt64.toNat_ofNat_of_lt' (by omega)
  have col : (UInt64.ofNat (i % cols.toNat + 1)).toNat = i % cols.toNat + 1 :=
    UInt64.toNat_ofNat_of_lt' (by omega)
  refine ⟨⟨UInt64.ofNat (i / cols.toNat + 1), UInt64.ofNat (i % cols.toNat + 1)⟩, ?_, ?_⟩
  · rw [Seat.within_iff]
    dsimp only
    rw [row, col]
    exact ⟨⟨Nat.succ_pos _, row_lt⟩, Nat.succ_pos _, col_lt⟩
  · show ((UInt64.ofNat (i / cols.toNat + 1)).toNat - 1) * cols.toNat +
      ((UInt64.ofNat (i % cols.toNat + 1)).toNat - 1) = i
    rw [row, col, Nat.add_sub_cancel, Nat.add_sub_cancel, Nat.mul_comm]
    exact Nat.div_add_mod i cols.toNat

namespace Event

/-! ## Numbers and seats -/

/-- The numbers on the seats are those that were given out. -/
structure Numbered (e : Event) : Prop where
  marker_le : ∀ marker ∈ e.markers, marker.toNat ≤ e.reservations.toNat
  /-- A number that was given out is on a seat. -/
  exists_marker : ∀ n, 1 ≤ n → n ≤ e.reservations.toNat → ∃ marker ∈ e.markers, marker.toNat = n

theorem Honours.number_mem {e : Event} {sold : List Sale} (h : e.Honours sold) {n : Nat} :
    (∃ sale ∈ sold, sale.number.toNat = n) ↔ 1 ≤ n ∧ n ≤ e.reservations.toNat := by
  have listed : n ∈ sold.map (·.number.toNat) ↔ n ∈ List.range' 1 sold.length := by rw [h.numbered]
  rw [List.mem_map, List.mem_range'_1] at listed
  rw [listed, h.count]
  omega

theorem Honours.numbered_markers {e : Event} {sold : List Sale} (h : e.Honours sold) :
    e.Numbered := by
  constructor
  · intro marker hm
    obtain ⟨i, inside, rfl⟩ := Array.mem_iff_getElem.1 hm
    have in_grid : i < e.rows.toNat * e.cols.toNat := h.size ▸ inside
    obtain ⟨seat, within, rfl⟩ := Seat.exists_offset in_grid
    by_cases sold_once : ∃ sale ∈ sold, seat ∈ sale.seats
    · obtain ⟨sale, hsale, hseat⟩ := sold_once
      have held := h.held sale hsale seat hseat
      rw [Array.getElem?_eq_getElem inside, Option.some.injEq] at held
      rw [held]
      exact (h.number_mem.1 ⟨sale, hsale, rfl⟩).2
    · have free := h.free seat within fun sale hsale hseat => sold_once ⟨sale, hsale, hseat⟩
      rw [Array.getElem?_eq_getElem inside, Option.some.injEq] at free
      rw [free]
      exact Nat.zero_le _
  · intro n pos le
    obtain ⟨sale, hsale, rfl⟩ := h.number_mem.2 ⟨pos, le⟩
    obtain ⟨seat, hseat⟩ := List.exists_mem_of_ne_nil _ (h.filled sale hsale).1
    exact ⟨sale.number, Array.mem_of_getElem? (h.held sale hsale seat hseat), rfl⟩

/-- As many seats are reserved as numbers are out, or more. -/
theorem Numbered.le_reservedCount {e : Event} (h : e.Numbered) :
    e.reservations.toNat ≤ e.shot.reservedCount := by
  have given : List.range' 1 e.reservations.toNat ⊆
      (e.markers.toList.filter (· ≠ 0)).map (·.toNat) := by
    intro n hn
    rw [List.mem_range'_1] at hn
    obtain ⟨marker, hm, rfl⟩ := h.exists_marker n hn.1 (by omega)
    have taken : marker ≠ 0 := by
      rintro rfl
      exact absurd hn.1 (by decide)
    refine List.mem_map_of_mem (List.mem_filter.2 ⟨Array.mem_toList_iff.2 hm, ?_⟩)
    exact decide_eq_true taken
  have once : (List.range' 1 e.reservations.toNat).Nodup := List.nodup_range'
  have length := (once.subperm given).length_le
  rw [List.length_range', List.length_map, ← List.countP_eq_length_filter] at length
  exact length

/-- Where a seat is free, fewer are reserved than there are. -/
theorem HasFree.reservedCount_lt {e : Event} {seat : Seat} (free : e.HasFree seat) :
    e.shot.reservedCount < e.markers.size := by
  have zero : (0 : UInt32) ∈ e.markers.toList :=
    Array.mem_toList_iff.2 (Array.mem_of_getElem? free.2)
  have most : e.markers.toList.countP (· ≠ 0) ≤ e.markers.toList.length := List.countP_le_length
  have some_free : e.markers.toList.countP (· ≠ 0) ≠ e.markers.toList.length := by
    intro all
    have := List.countP_eq_length.1 all 0 zero
    exact absurd this (by decide)
  have length : e.markers.toList.length = e.markers.size := Array.length_toList
  show e.markers.toList.countP (· ≠ 0) < e.markers.size
  omega

variable [Platform]

/-- An event that has a free seat, and less than `2 ^ 32` in all, has a number left. -/
theorem Numbered.number_left {e : Event} {cap : UInt64} (h : e.Numbered) (sound : e.Sound cap)
    (small : cap.toNat < UInt32.size) {seat : Seat} (free : e.HasFree seat) :
    e.reservations.toNat + 1 < UInt32.size := by
  have out := h.le_reservedCount
  have left := free.reservedCount_lt
  have under_cap := sound.admissible.size_le_cap
  rw [sound.size] at left
  omega

/-! ## Why a call is refused -/

theorem bounded_error {id : UInt32} {rows cols cap : UInt64} {fault : Fault}
    (h : bounded id rows cols cap = .error fault) :
    fault.isDomain = true ∧ ∀ event, fault ≠ .allocation (.idsExhausted event) := by
  unfold bounded at h
  split at h
  · cases h
    exact ⟨rfl, nofun⟩
  · dsimp only at h
    split at h
    · cases h
      exact ⟨rfl, nofun⟩
    · split at h
      · cases h
        exact ⟨rfl, nofun⟩
      · split at h
        · cases h
          exact ⟨rfl, nofun⟩
        · cases h

namespace Sound

variable {e : Event} {cap : UInt64}

/-- A seat of the grid has its place among the markers. -/
theorem lt_size_of_seatIndex (sound : e.Sound cap) {seat : Seat} {i : Nat}
    (h : e.seatIndex seat = some i) :
    seat.within e.rows e.cols = true ∧ i = seat.offset e.cols ∧ i < e.markers.size := by
  unfold seatIndex at h
  split at h
  · rename_i within
    cases h
    rw [sound.size]
    exact ⟨within, rfl, Seat.offset_lt within⟩
  · cases h

/-- Seats are refused if there are none, for one of them, or for want of a number. -/
theorem reserve_error (sound : e.Sound cap) {seats : List Seat} {fault : Fault}
    (h : e.reserve seats = .error fault) :
    fault = .emptyReservation ∨
      (∃ seat ∈ seats, fault = .seatOutOfBounds seat ∨ fault = .seatTaken seat) ∨
      fault = .allocation (.idsExhausted e.id) ∧ (∃ seat ∈ seats, e.HasFree seat) ∧
        UInt32.size ≤ e.reservations.toNat + 1 := by
  unfold reserve at h
  split at h
  · cases h
    exact .inl rfl
  · rename_i some_seats
    rw [sound.fits] at h
    rw [if_neg (by decide)] at h
    split at h
    · rename_i refused
      cases h
      obtain ⟨before, seat, after, rfl, -, refuses⟩ :=
        (freeIndices_eq_error_iff sound.fits).1 refused
      refine .inr (.inl ⟨seat, List.mem_append_right before List.mem_cons_self, ?_⟩)
      cases refuses with
      | outside => exact .inl rfl
      | taken => exact .inr rfl
    · rename_i places found
      split at h
      · cases h
      · rename_i none_left
        cases h
        obtain ⟨seat, hseat⟩ := List.exists_mem_of_ne_nil seats (by simpa using some_seats)
        have free := (freeIndices_eq_ok_iff.1 found).1 seat hseat
        exact .inr (.inr ⟨rfl, ⟨seat, hseat, free⟩, by omega⟩)

end Sound

/-! ## All that is kept true of an event -/

/-- What is true of every event of a store, whatever has happened to it. -/
structure WellKept (e : Event) (cap : UInt64) : Prop where
  rows : 1 ≤ e.rows.toNat
  cols : 1 ≤ e.cols.toNat
  size_le : e.rows.toNat * e.cols.toNat ≤ cap.toNat
  size : e.markers.size = e.rows.toNat * e.cols.toNat
  marker_le : ∀ marker ∈ e.markers, marker.toNat ≤ e.reservations.toNat
  exists_marker : ∀ n, 1 ≤ n → n ≤ e.reservations.toNat → ∃ marker ∈ e.markers, marker.toNat = n
  le_reserved : e.reservations.toNat ≤ e.shot.reservedCount
  /-- The number of seats is one of 64 bits. -/
  exact_size : e.rows.toNat * e.cols.toNat < UInt64.size
  /-- A place is reckoned without going below 0 or above 64 bits, and has its marker. -/
  exact_place : ∀ seat i, e.seatIndex seat = some i →
    (1 ≤ seat.row.toNat ∧ 1 ≤ seat.col.toNat) ∧
      i = (seat.row.toNat - 1) * e.cols.toNat + (seat.col.toNat - 1) ∧ i < UInt64.size ∧
      i < e.markers.size

theorem Numbered.kept {e : Event} {cap : UInt64} (h : e.Numbered) (sound : e.Sound cap) :
    e.WellKept cap := by
  have exact_size := sound.admissible.exact_size
  refine ⟨ne_zero_iff_one_le.1 sound.admissible.rows_ne_zero,
    ne_zero_iff_one_le.1 sound.admissible.cols_ne_zero, sound.admissible.size_le_cap, sound.size,
    h.marker_le, h.exists_marker, h.le_reservedCount, exact_size, ?_⟩
  intro seat i place
  obtain ⟨within, rfl, inside⟩ := sound.lt_size_of_seatIndex place
  obtain ⟨⟨row, -⟩, col, -⟩ := Seat.within_iff.1 within
  refine ⟨⟨row, col⟩, rfl, ?_, inside⟩
  rw [sound.size] at inside
  omega

end Event

/-! ## All that is kept true of a store -/

namespace Store

/-- The fault that is answered, if any. -/
def Answer.fault? : Answer → Option Fault
  | .created (.error fault) | .reserved (.error fault) | .viewed (.error fault)
  | .dumped (.error fault) => some fault
  | _ => none

@[simp] theorem Answer.fault?_created {result : Except Fault Unit} {fault : Fault} :
    (Answer.created result).fault? = some fault ↔ result = .error fault := by
  cases result <;> simp [fault?]

@[simp] theorem Answer.fault?_reserved {result : Except Fault UInt32} {fault : Fault} :
    (Answer.reserved result).fault? = some fault ↔ result = .error fault := by
  cases result <;> simp [fault?]

@[simp] theorem Answer.fault?_viewed {result : Except Fault Snapshot} {fault : Fault} :
    (Answer.viewed result).fault? = some fault ↔ result = .error fault := by
  cases result <;> simp [fault?]

variable {s : Store}

section

variable [Platform]

theorem Reachable.numbered (hs : s.Reachable) {e : Event} (he : e ∈ s.events) : e.Numbered := by
  obtain ⟨log, agrees⟩ := hs.agrees
  exact (agrees.honours e he).numbered_markers

/-- An event is not put on sale for what was asked, or for want of memory. -/
theorem create_error {id : UInt32} {rows cols : UInt64} {fault : Fault}
    (h : (s.create id rows cols).1 = .error fault) :
    fault.isDomain = true ∧ ∀ event, fault ≠ .allocation (.idsExhausted event) := by
  unfold create at h
  split at h
  · cases h
    exact ⟨rfl, nofun⟩
  · split at h
    · rename_i refused
      cases h
      exact Event.bounded_error refused
    · split at h
      · cases h
        exact ⟨rfl, nofun⟩
      · cases h

/-- Seats are refused for what was asked, or for want of a number, which small events never are in. -/
theorem Reachable.reserve_error (hs : s.Reachable) {id : UInt32} {seats : List Seat} {fault : Fault}
    (h : (s.reserve id seats).1 = .error fault) :
    fault.isDomain = true ∧ (s.maxEventSeats.toNat < UInt32.size →
      ∀ event, fault ≠ .allocation (.idsExhausted event)) := by
  unfold Store.reserve at h
  cases found : s.find? id with
  | none =>
    unfold lookup at h
    rw [found] at h
    cases h
    exact ⟨rfl, fun _ => nofun⟩
  | some e =>
    have he := (mem_of_find? found).1
    have sound := hs.sound.events e he
    rw [lookup_eq_ok_iff.2 found] at h
    dsimp only at h
    split at h
    · rename_i refused
      cases h
      rcases sound.reserve_error refused with
        rfl | ⟨seat, -, rfl | rfl⟩ | ⟨rfl, ⟨seat, -, free⟩, none_left⟩
      · exact ⟨rfl, fun _ => nofun⟩
      · exact ⟨rfl, fun _ => nofun⟩
      · exact ⟨rfl, fun _ => nofun⟩
      · refine ⟨rfl, fun small => ?_⟩
        have left := (hs.numbered he).number_left sound small free
        omega
    · cases h

/-- There is nothing wrong with an event that can keep it from being shown. -/
theorem Sound.snapshot_error (hs : s.Sound) {id : UInt32} {fault : Fault}
    (h : s.snapshot id = .error fault) : fault = .eventNotFound id := by
  cases found : s.find? id with
  | none =>
    unfold Store.snapshot lookup at h
    rw [found] at h
    cases h
    rfl
  | some e =>
    rw [hs.snapshot found] at h
    cases h

theorem Reachable.perform_error (hs : s.Reachable) {c : Call} {fault : Fault}
    (h : (s.perform c).1.fault? = some fault) :
    fault.isDomain = true ∧ (s.maxEventSeats.toNat < UInt32.size →
      ∀ event, fault ≠ .allocation (.idsExhausted event)) := by
  cases c with
  | create id rows cols =>
    have refused : (s.create id rows cols).1 = .error fault := Answer.fault?_created.1 h
    obtain ⟨domain, number⟩ := create_error refused
    exact ⟨domain, fun _ => number⟩
  | reserve id seats =>
    have refused : (s.reserve id seats).1 = .error fault := Answer.fault?_reserved.1 h
    exact hs.reserve_error refused
  | view id =>
    have refused : s.snapshot id = .error fault := Answer.fault?_viewed.1 h
    rw [hs.sound.snapshot_error refused]
    exact ⟨rfl, fun _ => nofun⟩
  | list => cases h
  | dump =>
    obtain ⟨shots, told, -⟩ := hs.sound.dump
    change Answer.fault? (.dumped s.dump) = some fault at h
    rw [told] at h
    cases h

/-- Whatever was called on a store, its events are well kept.  A call is then refused for what it asks
for, which the client is told, and never because a grid does not fit its event; it is refused for want
of a number only where events can have `2 ^ 32` seats. -/
theorem Reachable.wellKept (hs : s.Reachable) :
    s.list.Nodup ∧ (∀ e ∈ s.events, e.WellKept s.maxEventSeats) ∧
      ∀ c fault, (s.perform c).1.fault? = some fault →
        fault.isDomain = true ∧ (∀ event held rows cols, fault ≠ .corruptGrid event held rows cols) ∧
          (s.maxEventSeats.toNat < UInt32.size →
            ∀ event, fault ≠ .allocation (.idsExhausted event)) := by
  refine ⟨hs.sound.nodup, fun e he => (hs.numbered he).kept (hs.sound.events e he), ?_⟩
  intro c fault refused
  obtain ⟨domain, number⟩ := hs.perform_error refused
  refine ⟨domain, ?_, number⟩
  rintro event held rows cols rfl
  cases domain

end

attribute [local instance] Platform.x86_64 in
/-- Three seats of four are sold under two numbers, and one of them is wanted again. -/
theorem Reachable.wellKept_two_sales :
    let s := ((Store.empty 4 0).performAll
      [.create 7 2 2, .reserve 7 [⟨1, 1⟩, ⟨2, 2⟩], .reserve 7 [⟨1, 2⟩]]).2
    s.list = [7] ∧ (∀ e ∈ s.events, e.WellKept 4) ∧
      (s.perform (.reserve 7 [⟨2, 1⟩, ⟨1, 2⟩])).1.fault? = some (.seatTaken ⟨1, 2⟩) ∧
      (Fault.seatTaken ⟨1, 2⟩).isDomain = true := by
  intro s
  have kept := Reachable.wellKept (reachable_performAll (.empty 4 0)
    [.create 7 2 2, .reserve 7 [⟨1, 1⟩, ⟨2, 2⟩], .reserve 7 [⟨1, 2⟩]])
  exact ⟨rfl, kept.2.1, rfl, (kept.2.2 (.reserve 7 [⟨2, 1⟩, ⟨1, 2⟩]) _ rfl).1⟩

end Store

end BoxOffice
