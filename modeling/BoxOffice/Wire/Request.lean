import BoxOffice.Wire.Field
import BoxOffice.Wire.Opcode
/-!
# Requests

The requests of a session, how they are sent and how they are received.  A reservation sends the
number of its seats, then all rows, then all columns.  A reservation of too many seats is read to its
end and then refused, so that what follows it is read from its beginning.
-/

namespace BoxOffice

variable [Platform]

inductive Request where
  | create (id : UInt32) (rows cols : UInt64)
  | reserve (id : UInt32) (seats : List Seat)
  | view (id : UInt32)
  | list
  | quit
  deriving DecidableEq, Repr

namespace Request

def opcode : Request → Opcode
  | .create .. => .create
  | .reserve .. => .reserve
  | .view _ => .view
  | .list => .list
  | .quit => .quit

/-- The fields after the opcode. -/
def body (order : ByteOrder) : Request → List UInt8
  | .create id rows cols => order.word32 id ++ order.word64 rows ++ order.word64 cols
  | .reserve id seats =>
    order.word32 id ++ order.word64 (UInt64.ofNat seats.length) ++
      seats.flatMap (fun seat => order.word64 seat.row) ++
      seats.flatMap (fun seat => order.word64 seat.col)
  | .view id => order.word32 id
  | .list | .quit => []

def encode (order : ByteOrder) (m : Request) : List UInt8 := m.opcode.byte :: m.body order

/-- The bytes of one seat. -/
def seatWidth : Nat := 16

def takeSeats (count : Nat) : Attempt Frame (List Seat) := do
  let rows ← Frame.many Frame.word64 8 count
  let cols ← Frame.many Frame.word64 8 count
  return List.zipWith Seat.mk rows cols

/-- The seats of a reservation whose event and number of seats have been read. -/
def decodeSeats (order : ByteOrder) (maxSeats count : UInt64) : Attempt Source (List Seat) :=
  let payload := count.toNat * seatWidth
  if UInt64.size ≤ payload then .fail (.transport (.undrainable count))
  else if maxSeats < count then do
    Source.skip payload
    .fail (.protocol (.tooManySeats count maxSeats))
  else Source.fields order payload (takeSeats count.toNat)

/-- The request whose opcode has been read. -/
def decode (order : ByteOrder) (maxSeats : UInt64) : Opcode → Attempt Source Request
  | .create => Source.fields order 20 do
    return .create (← Frame.word32) (← Frame.word64) (← Frame.word64)
  | .reserve => do
    let (id, count) ← Source.fields order 12 do return (← Frame.word32, ← Frame.word64)
    return .reserve id (← decodeSeats order maxSeats count)
  | .view => Source.fields order 4 do return .view (← Frame.word32)
  | .list => return .list
  | .quit => return .quit
  | .setup => .fail (.protocol .setupInSession)

/-- The next request with its opcode; `none` when the stream is closed. -/
def decode? (order : ByteOrder) (maxSeats : UInt64) : Attempt Source (Option Request) := do
  match ← Source.byte? with
  | none => return none
  | some b =>
    match Opcode.ofByte b with
    | .error fault => .fail fault
    | .ok op => return some (← decode order maxSeats op)

open Source in
theorem lightens_decodeSeats (order : ByteOrder) (maxSeats count : UInt64) :
    Lightens (decodeSeats order maxSeats count) := by
  unfold decodeSeats
  dsimp only
  split
  · exact .fail _
  · split
    · exact (lightens_skip _).bind fun _ => .fail _
    · exact lightens_fields _ _ _

open Source in
theorem lightens_decode (order : ByteOrder) (maxSeats : UInt64) (op : Opcode) :
    Lightens (decode order maxSeats op) := by
  cases op
  case reserve =>
    exact (lightens_fields _ _ _).bind fun _ => (lightens_decodeSeats _ _ _).bind fun _ => .pure _
  case create | view => exact lightens_fields _ _ _
  case list | quit => exact .pure _
  case setup => exact .fail _

end Request

end BoxOffice
