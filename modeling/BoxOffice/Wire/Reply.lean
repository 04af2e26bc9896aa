import BoxOffice.Seating.Event
import BoxOffice.Wire.Field
import BoxOffice.Wire.Request
/-!
# Replies

The replies of the office, how they are sent and how they are received.  A reply has no opcode: the
client knows what it has asked for.  Creating and reserving are answered by an outcome alone; a grid
or a list follows its outcome only if that is `done`.

`Request.Result` is what a client learns from each request, and `Request.decodeResult` how.
-/

namespace BoxOffice

variable [Platform]

namespace Outcome

def encode (order : ByteOrder) (o : Outcome) : List UInt8 := order.int32 o.code

def decode (order : ByteOrder) : Attempt Source Outcome :=
  Source.fields order 4 do return .ofCode (← Frame.int32)

end Outcome

/-- The bytes of `count` fields of `width` bytes each. -/
def arrayLength (count width : Nat) : Attempt Source Nat :=
  if UInt64.size ≤ count * width then .fail (.protocol (.fieldsOverflow count width))
  else return count * width

/-- The reply to a client that asks to see an event. -/
inductive ViewReply where
  | found (rows cols : UInt64) (markers : List UInt32)
  | failed
  deriving DecidableEq, Repr

namespace ViewReply

/-- What is told about an event, as far as it is sent. -/
def ofResult : Except Fault Snapshot → ViewReply
  | .ok shot => .found shot.rows shot.cols shot.markers
  | .error _ => .failed

def encode (order : ByteOrder) : ViewReply → List UInt8
  | .found rows cols markers =>
    Outcome.done.encode order ++ order.word64 rows ++ order.word64 cols ++
      markers.flatMap order.word32
  | .failed => Outcome.failed.encode order

def decode (order : ByteOrder) : Attempt Source ViewReply := do
  match ← Outcome.decode order with
  | .failed => return .failed
  | .done =>
    let (rows, cols) ← Source.fields order 16 do return (← Frame.word64, ← Frame.word64)
    let count := rows.toNat * cols.toNat
    if UInt64.size ≤ count then .fail (.protocol (.gridOverflow rows cols))
    else
      let length ← arrayLength count 4
      return .found rows cols (← Source.fields order length (Frame.many Frame.word32 4 count))

end ViewReply

/-- The reply to a client that asks for the events. -/
inductive ListReply where
  | found (ids : List UInt32)
  | failed
  deriving DecidableEq, Repr

namespace ListReply

def encode (order : ByteOrder) : ListReply → List UInt8
  | .found ids =>
    Outcome.done.encode order ++ order.word64 (UInt64.ofNat ids.length) ++ ids.flatMap order.word32
  | .failed => Outcome.failed.encode order

def decode (order : ByteOrder) : Attempt Source ListReply := do
  match ← Outcome.decode order with
  | .failed => return .failed
  | .done =>
    let count ← Source.fields order 8 Frame.word64
    let length ← arrayLength count.toNat 4
    return .found (← Source.fields order length (Frame.many Frame.word32 4 count.toNat))

end ListReply

namespace Request

/-- What a client learns from a request. -/
@[reducible] def Result : Request → Type
  | .create .. | .reserve .. => Outcome
  | .view _ => ViewReply
  | .list => ListReply
  | .quit => Unit

/-- Receives the reply to a request. -/
def decodeResult (order : ByteOrder) : (m : Request) → Attempt Source m.Result
  | .create .. | .reserve .. => Outcome.decode order
  | .view _ => ViewReply.decode order
  | .list => ListReply.decode order
  | .quit => pure ()

end Request

end BoxOffice
