import BoxOffice.Memory
/-!
# Events and their seats

An `Event` has `rows` times `cols` seats and keeps, in row-major order, one marker for each of them:
0 while the seat is free, else the identifier of the reservation that holds it.  Identifiers are
counted up from 1, one for each reservation that succeeds.

* `Event.bounded` makes an event with all seats free;
* `Event.seatIndex` places a seat in row-major order, seats outside the grid having no place;
* `Event.reserve` takes all the seats it is given or none;
* `Event.snapshot` is what is told about an event.
-/

namespace BoxOffice

/-- The cap on the seats of an event where nothing else is said. -/
def defaultEventCap : UInt64 := 1048576

structure Snapshot where
  id : UInt32
  rows : UInt64
  cols : UInt64
  /-- Markers in row-major order, 0 for a free seat. -/
  markers : List UInt32
  deriving DecidableEq, Repr

structure Event where
  id : UInt32
  rows : UInt64
  cols : UInt64
  /-- Markers in row-major order, 0 for a free seat. -/
  markers : Array UInt32
  /-- The identifier given out last. -/
  reservations : UInt32
  deriving DecidableEq, Repr

/-- A seat lies in a grid when both of its coordinates are from 1 up to the grid's. -/
def Seat.within (seat : Seat) (rows cols : UInt64) : Bool :=
  seat.row ≠ 0 && seat.col ≠ 0 && seat.row ≤ rows && seat.col ≤ cols

/-- Where a seat stands in row-major order, in a grid that is `cols` wide. -/
def Seat.offset (seat : Seat) (cols : UInt64) : Nat :=
  (seat.row.toNat - 1) * cols.toNat + (seat.col.toNat - 1)

namespace Snapshot

/-- The marker of a seat; `none` outside the grid. -/
def seat (s : Snapshot) (seat : Seat) : Option UInt32 :=
  if seat.within s.rows s.cols then s.markers[seat.offset s.cols]? else none

def reservedCount (s : Snapshot) : Nat := s.markers.countP (· ≠ 0)

end Snapshot

namespace Event

/-- A new event with every seat free, unless it has no seats, too many, or no memory for them. -/
def bounded [Platform] (id : UInt32) (rows cols cap : UInt64) : Except Fault Event :=
  if rows = 0 || cols = 0 then .error (.invalidDimensions rows cols)
  else
    let size := rows.toNat * cols.toNat
    if UInt64.size ≤ size then .error (.allocation (.gridOverflow rows cols))
    else if cap.toNat < size then .error (.allocation (.gridOverCap rows cols cap))
    else match Memory.refusal? size 4 with
      | some fault => .error (.allocation (.gridMemory rows cols fault))
      | none => .ok { id, rows, cols, markers := Array.replicate size 0, reservations := 0 }

def new [Platform] (id : UInt32) (rows cols : UInt64) : Except Fault Event :=
  bounded id rows cols defaultEventCap

/-- There is one marker for each seat. -/
def fits (e : Event) : Bool := e.rows.toNat * e.cols.toNat == e.markers.size

/-- What is said of an event whose markers do not fit its seats. -/
def corrupt (e : Event) : Fault := .corruptGrid e.id e.markers.size e.rows e.cols

/-- The place of a seat among the markers; `none` outside the grid. -/
def seatIndex (e : Event) (seat : Seat) : Option Nat :=
  if seat.within e.rows e.cols then some (seat.offset e.cols) else none

/-- The place of a seat that is free, or why it cannot be had. -/
def freeIndex (e : Event) (seat : Seat) : Except Fault Nat :=
  match e.seatIndex seat with
  | none => .error (.seatOutOfBounds seat)
  | some i =>
    match e.markers[i]? with
    | none => .error e.corrupt
    | some marker => if marker = 0 then .ok i else .error (.seatTaken seat)

/-- The places of seats that are all free, or why the first of the others cannot be had. -/
def freeIndices (e : Event) : List Seat → Except Fault (List Nat)
  | [] => .ok []
  | seat :: seats =>
    match e.freeIndex seat with
    | .error fault => .error fault
    | .ok i =>
      match e.freeIndices seats with
      | .error fault => .error fault
      | .ok is => .ok (i :: is)

/-- The event after the reservation numbered `n` of the seats at `places`. -/
def stamp (e : Event) (n : UInt32) (places : List Nat) : Event :=
  { e with
    reservations := n
    markers := places.foldl (fun markers i => markers.setIfInBounds i n) e.markers }

/-- Reserves all the seats under the next identifier, or none of them. -/
def reserve (e : Event) (seats : List Seat) : Except Fault (UInt32 × Event) :=
  if seats.isEmpty then .error .emptyReservation
  else if !e.fits then .error e.corrupt
  else match e.freeIndices seats with
    | .error fault => .error fault
    | .ok places =>
      if e.reservations.toNat + 1 < UInt32.size then
        .ok (e.reservations + 1, e.stamp (e.reservations + 1) places)
      else .error (.allocation (.idsExhausted e.id))

def snapshot (e : Event) : Except Fault Snapshot :=
  if e.fits then .ok { id := e.id, rows := e.rows, cols := e.cols, markers := e.markers.toList }
  else .error e.corrupt

/-! ## Small laws -/

@[simp] theorem stamp_id (e : Event) (n : UInt32) (is : List Nat) : (e.stamp n is).id = e.id := rfl

@[simp] theorem stamp_rows (e : Event) (n : UInt32) (is : List Nat) :
    (e.stamp n is).rows = e.rows := rfl

@[simp] theorem stamp_cols (e : Event) (n : UInt32) (is : List Nat) :
    (e.stamp n is).cols = e.cols := rfl

@[simp] theorem size_stamp (e : Event) (n : UInt32) (is : List Nat) :
    (e.stamp n is).markers.size = e.markers.size := by
  show (is.foldl _ e.markers).size = _
  generalize e.markers = m
  induction is generalizing m with
  | nil => rfl
  | cons i is ih => rw [List.foldl_cons, ih, Array.size_setIfInBounds]

end Event

end BoxOffice
