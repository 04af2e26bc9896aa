import BoxOffice.Wire.Field
import BoxOffice.Wire.Opcode
/-!
# Setting up a session

A client announces itself by the names of two endpoints, each in a field of 40 bytes: the one it
will write its requests to, and the one it will read the replies from.  The office answers with a
session number.
-/

namespace BoxOffice

variable [Platform]

/-- The width of an endpoint's name on the wire, with the zero byte that ends it. -/
def nameWidth : Nat := 40

structure Setup where
  /-- Where the client writes its requests. -/
  request : String
  /-- Where the client reads the replies. -/
  response : String
  deriving DecidableEq, Repr

namespace Setup

def encode (m : Setup) : Except Fault (List UInt8) :=
  match textField m.request nameWidth with
  | .error fault => .error fault
  | .ok request =>
    match textField m.response nameWidth with
    | .error fault => .error fault
    | .ok response => .ok (Opcode.setup.byte :: request ++ response)

def take : Attempt Frame Setup := do
  let request ← Frame.text nameWidth
  let response ← Frame.text nameWidth
  return { request, response }

/-- The announcement whose opcode has been read. -/
def decode (order : ByteOrder) : Attempt Source Setup :=
  Source.fields order (2 * nameWidth) take

end Setup

structure SetupReply where
  sessionId : Int32
  deriving DecidableEq, Repr

namespace SetupReply

def encode (order : ByteOrder) (m : SetupReply) : List UInt8 := order.int32 m.sessionId

def decode (order : ByteOrder) : Attempt Source SetupReply :=
  Source.fields order 4 do return { sessionId := ← Frame.int32 }

end SetupReply

end BoxOffice
