import BoxOffice.Listing
import BoxOffice.Proofs.Seating.Store
import BoxOffice.Proofs.Text.Numeral
/-!
# Reading a dump

A grid is written row by row (`Listing.toList_gridText`), and a dump is written line by line: one that
names an event, then its rows (`Listing.toList_dumpText`).  No number has a colon, a space or a line
feed in it, so lines and numbers are found again where the text is split (`Listing.splitOn_ended`,
`Listing.splitOn_rowLine`).  `Listing.read?` does this, and reads every dump back.

Main statement: `Listing.dump_read_back`.
-/

namespace BoxOffice

open Text

/-- There are seats, and there is one marker for each of them. -/
structure Snapshot.Whole (s : Snapshot) : Prop where
  rows_pos : 1 ≤ s.rows.toNat
  cols_pos : 1 ≤ s.cols.toNat
  markers : s.markers.length = s.rows.toNat * s.cols.toNat

namespace Listing

variable {markers row : List UInt32} {rows cols : Nat}

/-! ## Rows -/

/-- The rows of a grid that is `cols` wide. -/
def rowsOf (cols : Nat) : Nat → List UInt32 → List (List UInt32)
  | 0, _ => []
  | rows + 1, markers => markers.take cols :: rowsOf cols rows (markers.drop cols)

theorem length_rowsOf (cols rows : Nat) (markers : List UInt32) :
    (rowsOf cols rows markers).length = rows := by
  induction rows generalizing markers with
  | zero => rfl
  | succ rows ih => rw [rowsOf, List.length_cons, ih]

/-- What is left of a grid without its first row is a grid with one row less. -/
theorem length_drop_row (h : markers.length = (rows + 1) * cols) :
    (markers.drop cols).length = rows * cols := by
  rw [List.length_drop, h, Nat.add_mul, Nat.one_mul, Nat.add_sub_cancel]

theorem length_take_row (h : markers.length = (rows + 1) * cols) :
    (markers.take cols).length = cols := by
  rw [Nat.add_mul, Nat.one_mul] at h
  exact List.length_take_of_le (by omega)

theorem length_of_mem_rowsOf (h : markers.length = rows * cols) :
    ∀ row ∈ rowsOf cols rows markers, row.length = cols := by
  induction rows generalizing markers with
  | zero => exact fun _ mem => absurd mem List.not_mem_nil
  | succ rows ih => exact List.forall_mem_cons.2 ⟨length_take_row h, ih (length_drop_row h)⟩

/-- The rows have all the markers, in order. -/
theorem flatten_rowsOf (h : markers.length = rows * cols) :
    (rowsOf cols rows markers).flatten = markers := by
  induction rows generalizing markers with
  | zero =>
    rw [Nat.zero_mul] at h
    exact (List.eq_nil_of_length_eq_zero h).symm
  | succ rows ih =>
    rw [rowsOf, List.flatten_cons, ih (length_drop_row h), List.take_append_drop]

/-- A marker stands in its row at its place in row-major order. -/
theorem getElem?_rowsOf (markers : List UInt32) {r c : Nat} (hr : r < rows) (hc : c < cols) :
    ∃ row, (rowsOf cols rows markers)[r]? = some row ∧ row[c]? = markers[r * cols + c]? := by
  induction rows generalizing markers r with
  | zero => omega
  | succ rows ih =>
    cases r with
    | zero =>
      refine ⟨_, rfl, ?_⟩
      rw [List.getElem?_take_of_lt hc, Nat.zero_mul, Nat.zero_add]
    | succ r =>
      obtain ⟨row, found, place⟩ := ih (markers.drop cols) (Nat.lt_of_succ_lt_succ hr)
      refine ⟨row, found, place.trans ?_⟩
      rw [List.getElem?_drop, Nat.add_mul, Nat.one_mul]
      congr 1
      omega

/-! ## Lines -/

/-- The digits of a number. -/
def digitsOf (n : UInt32) : List Char := (toString n.toNat).toList

/-- The line of a row. -/
def rowLine (row : List UInt32) : List Char := [' '].intercalate (row.map digitsOf)

/-- The line that names an event. -/
def headLine (id : UInt32) : List Char := "Event".toList ++ ':' :: ' ' :: digitsOf id

/-- The text of some lines. -/
def ended (lines : List (List Char)) : List Char := lines.flatMap (· ++ ['\n'])

theorem toList_rowText (row : List UInt32) : (rowText row).toList = rowLine row ++ ['\n'] := by
  unfold rowText rowLine
  rw [String.toList_append, String.toList_intercalate, List.map_map]
  rfl

theorem toList_eventLine (id : UInt32) : (eventLine id).toList = headLine id ++ ['\n'] := by
  have text : eventLine id = "Event: " ++ toString id.toNat ++ "\n" := rfl
  rw [text, String.toList_append, String.toList_append]
  rfl

theorem toList_gridAfter (text : String) (pos : 1 ≤ cols) (h : markers.length = rows * cols) :
    (gridAfter text cols rows markers).toList =
      text.toList ++ ended ((rowsOf cols rows markers).map rowLine) := by
  induction rows generalizing text markers with
  | zero => exact (List.append_nil _).symm
  | succ rows ih =>
    have some_marker : markers.isEmpty = false := by
      rw [List.isEmpty_eq_false_iff, ← List.length_pos_iff, h, Nat.add_mul, Nat.one_mul]
      omega
    rw [gridAfter, some_marker, if_neg Bool.false_ne_true, ih _ (length_drop_row h),
      String.toList_append, toList_rowText, List.append_assoc]
    rfl

/-- The rows of what is told about an event. -/
def grid (s : Snapshot) : List (List UInt32) := rowsOf s.cols.toNat s.rows.toNat s.markers

/-- The lines of an event: its name and its rows. -/
def linesOf (s : Snapshot) : List (List Char) := headLine s.id :: (grid s).map rowLine

/-- A grid is written row by row. -/
theorem toList_gridText {s : Snapshot} (whole : s.Whole) :
    (gridText s.rows s.cols s.markers).toList = ended ((grid s).map rowLine) := by
  unfold gridText
  rw [if_neg (ne_zero_iff_one_le.2 whole.cols_pos), toList_gridAfter "" whole.cols_pos whole.markers]
  rfl

theorem toList_eventText {s : Snapshot} (whole : s.Whole) :
    (eventText s).toList = ended (linesOf s) := by
  unfold eventText
  rw [String.toList_append, toList_eventLine, toList_gridText whole]
  rfl

/-- A dump is written line by line. -/
theorem toList_dumpText {shots : List Snapshot} (ne_nil : shots ≠ [])
    (whole : ∀ s ∈ shots, s.Whole) :
    (dumpText shots).toList = ended (shots.flatMap linesOf) := by
  unfold dumpText
  rw [if_neg (by simpa using ne_nil), String.toList_join, List.flatMap_map, ended,
    List.flatMap_assoc]
  exact List.flatMap_congr fun s mem => toList_eventText (whole s mem)

/-! ## What stands in a line -/

theorem isDigit_of_mem_digitsOf {n : UInt32} {c : Char} (h : c ∈ digitsOf n) : c.isDigit = true :=
  (digits_toString n.toNat).digit c h

theorem not_mem_digitsOf {c : Char} (h : c.isDigit = false) (n : UInt32) : c ∉ digitsOf n := by
  intro mem
  cases h.symm.trans (isDigit_of_mem_digitsOf mem)

theorem space_or_digit_of_mem_rowLine {c : Char} (h : c ∈ rowLine row) :
    c = ' ' ∨ c.isDigit = true := by
  unfold rowLine at h
  induction row with
  | nil => cases h
  | cons n row ih =>
    cases row with
    | nil =>
      rw [List.map_singleton, List.intercalate_singleton] at h
      exact .inr (isDigit_of_mem_digitsOf h)
    | cons m row =>
      rw [List.map_cons, List.map_cons, List.intercalate_cons_cons, ← List.map_cons,
        List.mem_append, List.mem_append, List.mem_singleton] at h
      rcases h with (mem | rfl) | mem
      · exact .inr (isDigit_of_mem_digitsOf mem)
      · exact .inl rfl
      · exact ih mem

theorem not_mem_rowLine {c : Char} (other : c ≠ ' ') (h : c.isDigit = false)
    (row : List UInt32) : c ∉ rowLine row := by
  intro mem
  rcases space_or_digit_of_mem_rowLine mem with same | digit
  · exact other same
  · cases h.symm.trans digit

theorem not_mem_headLine (id : UInt32) : '\n' ∉ headLine id := by
  unfold headLine
  rw [List.mem_append, List.mem_cons, List.mem_cons, not_or, not_or, not_or]
  exact ⟨by decide, by decide, by decide, not_mem_digitsOf rfl id⟩

theorem not_mem_of_mem_linesOf {s : Snapshot} : ∀ line ∈ linesOf s, '\n' ∉ line := by
  refine List.forall_mem_cons.2 ⟨not_mem_headLine s.id, List.forall_mem_map.2 fun row _ => ?_⟩
  exact not_mem_rowLine (by decide) rfl row

/-! ## Finding lines and numbers again -/

/-- Lines are found again. -/
theorem splitOn_ended {lines : List (List Char)} (h : ∀ line ∈ lines, '\n' ∉ line) :
    (ended lines).splitOn '\n' = lines ++ [[]] := by
  induction lines with
  | nil => exact List.splitOn_nil _
  | cons line lines ih =>
    obtain ⟨whole, rest⟩ := List.forall_mem_cons.1 h
    have first : ended (line :: lines) = line ++ '\n' :: ended lines := by
      unfold ended
      rw [List.flatMap_cons, List.append_assoc]
      rfl
    rw [first, List.splitOn_append_cons_self_of_not_mem whole, ih rest, List.cons_append]

/-- The numbers of a row are found again. -/
theorem splitOn_rowLine (some_marker : row ≠ []) :
    (rowLine row).splitOn ' ' = row.map digitsOf := by
  refine List.splitOn_intercalate ' ' (List.forall_mem_map.2 fun n _ => not_mem_digitsOf rfl n) ?_
  rwa [ne_eq, List.map_eq_nil_iff]

theorem mapM_word32? (row : List UInt32) : (row.map digitsOf).mapM word32? = some row := by
  induction row with
  | nil => rfl
  | cons n row ih =>
    rw [List.map_cons, List.mapM_cons, ih]
    unfold digitsOf
    rw [word32?_toString]
    rfl

/-! ## Reading -/

/-- The event with these rows. -/
def shotOf (id : UInt32) (rows : List (List UInt32)) : Snapshot where
  id := id
  rows := .ofNat rows.length
  cols := .ofNat (rows.headD []).length
  markers := rows.flatten

/-- The rows above the first line that names an event, and the events from there on. -/
def readLines? : List (List Char) → Option (List (List UInt32) × List Snapshot)
  | [] => some ([], [])
  | line :: lines =>
    match readLines? lines with
    | none => none
    | some (rows, shots) =>
      match cutAt ':' line with
      | some (_, id) => (word32? id.tail).map fun id => ([], shotOf id rows :: shots)
      | none => ((line.splitOn ' ').mapM word32?).map fun row => (row :: rows, shots)

/-- The events that a dump tells of. -/
def read? (text : String) : Option (List Snapshot) :=
  if text = noEvents then some []
  else match readLines? (text.toList.splitOn '\n').dropLast with
    | some ([], shots) => some shots
    | _ => none

/-- An event is known from its rows. -/
theorem shotOf_grid {s : Snapshot} (whole : s.Whole) : shotOf s.id (grid s) = s := by
  obtain ⟨r, rows_eq⟩ := Nat.exists_eq_add_of_le' whole.rows_pos
  have first : ((grid s).headD []).length = s.cols.toNat := by
    have fits := whole.markers
    unfold grid
    rw [rows_eq] at fits ⊢
    exact length_take_row fits
  unfold shotOf
  rw [first, grid, length_rowsOf, flatten_rowsOf whole.markers, UInt64.ofNat_toNat,
    UInt64.ofNat_toNat]

theorem ne_nil_of_mem_grid {s : Snapshot} (whole : s.Whole) : ∀ row ∈ grid s, row ≠ [] := by
  intro row mem
  have pos := whole.cols_pos
  rw [← length_of_mem_rowsOf whole.markers row mem] at pos
  exact List.ne_nil_of_length_pos pos

section
variable {lines : List (List Char)} {below : List (List UInt32)} {shots : List Snapshot}

theorem readLines?_rowLine (some_marker : row ≠ [])
    (rest : readLines? lines = some (below, shots)) :
    readLines? (rowLine row :: lines) = some (row :: below, shots) := by
  have no_name : cutAt ':' (rowLine row) = none := by
    rw [Option.eq_none_iff_forall_ne_some]
    rintro ⟨a, b⟩ cut
    obtain ⟨text, -⟩ := cutAt_eq_some_iff.1 cut
    have mem : ':' ∈ rowLine row := text ▸ List.mem_append_right a List.mem_cons_self
    exact not_mem_rowLine (by decide) rfl row mem
  rw [readLines?, rest]
  dsimp only
  rw [no_name]
  dsimp only
  rw [splitOn_rowLine some_marker, mapM_word32?]
  rfl

theorem readLines?_headLine (id : UInt32) (rest : readLines? lines = some (below, shots)) :
    readLines? (headLine id :: lines) = some ([], shotOf id below :: shots) := by
  have name : cutAt ':' (headLine id) = some ("Event".toList, ' ' :: digitsOf id) :=
    cutAt_eq_some_iff.2 ⟨rfl, by decide⟩
  rw [readLines?, rest]
  dsimp only
  rw [name]
  dsimp only
  rw [List.tail_cons, digitsOf, word32?_toString]
  rfl

/-- The rows of a grid go on top of the rows below. -/
theorem readLines?_rows {rows : List (List UInt32)} (some_marker : ∀ row ∈ rows, row ≠ [])
    (rest : readLines? lines = some ([], shots)) :
    readLines? (rows.map rowLine ++ lines) = some (rows, shots) := by
  induction rows with
  | nil => exact rest
  | cons row rows ih =>
    obtain ⟨first, others⟩ := List.forall_mem_cons.1 some_marker
    exact readLines?_rowLine first (ih others)

theorem readLines?_linesOf {s : Snapshot} (whole : s.Whole)
    (rest : readLines? lines = some ([], shots)) :
    readLines? (linesOf s ++ lines) = some ([], s :: shots) := by
  have read := readLines?_headLine s.id (readLines?_rows (ne_nil_of_mem_grid whole) rest)
  rwa [shotOf_grid whole] at read

end

/-- The lines of events are read back, from the last event up. -/
theorem readLines?_flatMap {shots : List Snapshot} (whole : ∀ s ∈ shots, s.Whole) :
    readLines? (shots.flatMap linesOf) = some ([], shots) := by
  induction shots with
  | nil => rfl
  | cons s shots ih =>
    obtain ⟨first, others⟩ := List.forall_mem_cons.1 whole
    exact readLines?_linesOf first (ih others)

/-- No event is taken for a note that there is none. -/
theorem dumpText_ne_noEvents {shots : List Snapshot} (ne_nil : shots ≠ [])
    (whole : ∀ s ∈ shots, s.Whole) : dumpText shots ≠ noEvents := by
  obtain ⟨s, others, rfl⟩ := List.exists_cons_of_ne_nil ne_nil
  intro same
  have text := congrArg String.toList same
  rw [toList_dumpText ne_nil whole] at text
  have first := congrArg List.head? text
  revert first
  exact of_decide_eq_false rfl

theorem read?_dumpText {shots : List Snapshot} (whole : ∀ s ∈ shots, s.Whole) :
    read? (dumpText shots) = some shots := by
  by_cases none : shots = []
  · subst none
    rfl
  have lines : ∀ line ∈ shots.flatMap linesOf, '\n' ∉ line := by
    intro line mem
    obtain ⟨s, -, mem⟩ := List.mem_flatMap.1 mem
    exact not_mem_of_mem_linesOf line mem
  unfold read?
  rw [if_neg (dumpText_ne_noEvents none whole), toList_dumpText none whole, splitOn_ended lines,
    List.dropLast_concat, readLines?_flatMap whole]

/-! ## Seats -/

/-- A seat's marker stands in the row and the column of the seat. -/
theorem getElem?_grid {s : Snapshot} {seat : Seat} (inside : seat.within s.rows s.cols = true) :
    ∃ row, (grid s)[seat.row.toNat - 1]? = some row ∧ row[seat.col.toNat - 1]? = s.seat seat := by
  obtain ⟨⟨row_pos, row_le⟩, col_pos, col_le⟩ := Seat.within_iff.1 inside
  obtain ⟨row, found, place⟩ := getElem?_rowsOf s.markers
    (show seat.row.toNat - 1 < s.rows.toNat by omega)
    (show seat.col.toNat - 1 < s.cols.toNat by omega)
  exact ⟨row, found, place.trans (Snapshot.seat_of_within inside).symm⟩

/-- A grid is shown: its text has a line for each row, and a line has the markers of its row in decimal
with one space between each and the next. -/
structure Shows (text : String) (s : Snapshot) (lines : List (List Char)) : Prop where
  /-- Every line is ended by a line feed. -/
  text : text.toList.splitOn '\n' = lines ++ [[]]
  rows : lines.length = s.rows.toNat
  cols : ∀ line ∈ lines, (line.splitOn ' ').length = s.cols.toNat
  marker : ∀ seat : Seat, seat.within s.rows s.cols = true → ∃ line marker,
    lines[seat.row.toNat - 1]? = some line ∧
      (line.splitOn ' ')[seat.col.toNat - 1]? = some (toString marker.toNat).toList ∧
      s.seat seat = some marker

theorem shows_gridText {s : Snapshot} (whole : s.Whole) :
    Shows (gridText s.rows s.cols s.markers) s ((grid s).map rowLine) where
  text := by
    rw [toList_gridText whole]
    exact splitOn_ended (List.forall_mem_map.2 fun row _ => not_mem_rowLine (by decide) rfl row)
  rows := by rw [List.length_map, grid, length_rowsOf]
  cols := by
    refine List.forall_mem_map.2 fun row mem => ?_
    rw [splitOn_rowLine (ne_nil_of_mem_grid whole row mem), List.length_map]
    exact length_of_mem_rowsOf whole.markers row mem
  marker := by
    intro seat inside
    obtain ⟨row, found, place⟩ := getElem?_grid inside
    have shown : s.seat seat ≠ none := fun missing =>
      (Snapshot.seat_eq_none_iff whole.markers).1 missing inside
    obtain ⟨marker, held⟩ := Option.ne_none_iff_exists'.1 shown
    refine ⟨rowLine row, marker, by rw [List.getElem?_map, found]; rfl, ?_, held⟩
    rw [splitOn_rowLine (ne_nil_of_mem_grid whole row (List.mem_of_getElem? found)),
      List.getElem?_map, place, held]
    rfl

end Listing

/-! ## Stores -/

namespace Store

variable [Platform]

theorem Sound.whole_of_snapshot {s : Store} (h : s.Sound) {id : UInt32} {shot : Snapshot}
    (told : s.snapshot id = .ok shot) : shot.Whole := by
  cases found : s.find? id with
  | none =>
    unfold Store.snapshot lookup at told
    rw [found] at told
    cases told
  | some e =>
    rw [h.snapshot found] at told
    cases told
    obtain ⟨admissible, size⟩ := h.events e (mem_of_find? found).1
    exact ⟨ne_zero_iff_one_le.1 admissible.rows_ne_zero,
      ne_zero_iff_one_le.1 admissible.cols_ne_zero, size⟩

end Store

/-! ## Reading a dump back -/

section

variable [Platform]

/-- A dump is read back, so that no two lists of events have the same text: for every list of events
that have seats and a marker for each, as what a store tells of always is.  A grid is shown row by row,
and each seat's marker stands in the row and the column of the seat. -/
theorem Listing.dump_read_back :
    (∀ shots : List Snapshot, (∀ s ∈ shots, s.Whole) → read? (dumpText shots) = some shots) ∧
      (∀ shots others : List Snapshot, (∀ s ∈ shots, s.Whole) → (∀ s ∈ others, s.Whole) →
        dumpText shots = dumpText others → shots = others) ∧
      (∀ s : Snapshot, s.Whole → ∃ lines, Shows (gridText s.rows s.cols s.markers) s lines) ∧
      ∀ store : Store, store.Reachable → ∃ shots, store.dump = .ok shots ∧ ∀ s ∈ shots, s.Whole := by
  refine ⟨fun _ whole => read?_dumpText whole, ?_, fun _ whole => ⟨_, shows_gridText whole⟩, ?_⟩
  · intro shots others whole others_whole same
    have read := read?_dumpText whole
    rw [same, read?_dumpText others_whole] at read
    exact (Option.some.inj read).symm
  · intro store reachable
    obtain ⟨shots, told, -, each⟩ := reachable.sound.dump
    exact ⟨shots, told, fun s mem => reachable.sound.whole_of_snapshot (each s mem)⟩

end

attribute [local instance] Platform.x86_64 in
/-- A row of two seats, and two rows of one. -/
theorem Listing.dump_read_back_two_events :
    dumpText [⟨12, 1, 2, [0, 34]⟩, ⟨1, 2, 1, [5, 0]⟩] = "Event: 12\n0 34\nEvent: 1\n5\n0\n" ∧
      read? "Event: 12\n0 34\nEvent: 1\n5\n0\n" =
        some [⟨12, 1, 2, [0, 34]⟩, ⟨1, 2, 1, [5, 0]⟩] := by
  have text : dumpText [⟨12, 1, 2, [0, 34]⟩, ⟨1, 2, 1, [5, 0]⟩] =
    "Event: 12\n0 34\nEvent: 1\n5\n0\n" := by decide
  have whole : ∀ s ∈ [⟨12, 1, 2, [0, 34]⟩, ⟨1, 2, 1, [5, 0]⟩], Snapshot.Whole s :=
    List.forall_mem_cons.2 ⟨⟨by decide, by decide, rfl⟩,
      List.forall_mem_singleton.2 ⟨by decide, by decide, rfl⟩⟩
  have read := Listing.dump_read_back.1 _ whole
  rw [text] at read
  exact ⟨text, read⟩

/-- Where there is no seat, the width of the grid is not told. -/
example : Listing.dumpText [⟨1, 0, 1, []⟩] = Listing.dumpText [⟨1, 0, 2, []⟩] := by decide

end BoxOffice
