import BoxOffice.Journal
import BoxOffice.Seating.Store
import BoxOffice.Wire.Reply
import BoxOffice.Wire.Request
/-!
# Answering a request

`answer` carries a request out on a store and makes the one reply that it earns; quitting earns none.
`refusal?` is the reply to a request that could not be decoded.
-/

namespace BoxOffice

variable [Platform]

/-- A reply as it is sent, and the outcome that it carries. -/
structure Reply where
  outcome : Outcome
  bytes : List UInt8
  deriving DecidableEq, Repr

structure Answered where
  store : Store
  reply : Option Reply
  notes : List Note

def noteCreated (id : UInt32) (rows cols : UInt64) : Except Fault Unit → List Note
  | .ok _ => [.created id rows cols]
  | .error _ => []

def noteReserved (id : UInt32) (seats : List Seat) : Except Fault UInt32 → List Note
  | .ok n => [.reserved seats.length id n]
  | .error _ => []

/-- What a session notes down about a result. -/
def noteResult {α : Type} (session : Int32) (op : Opcode) : Except Fault α → Note
  | .ok _ => .requestDone session op
  | .error fault => .requestFailed session op fault

/-- Carries a request out and makes its reply. -/
def answer (session : Int32) (order : ByteOrder) (store : Store) (m : Request) : Answered :=
  match m with
  | .create id rows cols =>
    let (result, store) := store.create id rows cols
    let outcome := Outcome.ofResult result
    { store
      reply := some { outcome, bytes := outcome.encode order }
      notes := noteCreated id rows cols result ++ [noteResult session m.opcode result] }
  | .reserve id seats =>
    let (result, store) := store.reserve id seats
    let outcome := Outcome.ofResult result
    { store
      reply := some { outcome, bytes := outcome.encode order }
      notes := noteReserved id seats result ++ [noteResult session m.opcode result] }
  | .view id =>
    let result := store.snapshot id
    { store
      reply := some
        { outcome := .ofResult result, bytes := (ViewReply.ofResult result).encode order }
      notes := [noteResult session m.opcode result] }
  | .list =>
    { store
      reply := some { outcome := .done, bytes := (ListReply.found store.list).encode order }
      notes := [.requestDone session m.opcode] }
  | .quit => { store, reply := none, notes := [] }

/-- The reply that says no more than that the request failed. -/
def refusal? (order : ByteOrder) : Opcode → Option Reply
  | .create | .reserve => some { outcome := .failed, bytes := Outcome.failed.encode order }
  | .view => some { outcome := .failed, bytes := ViewReply.failed.encode order }
  | .list => some { outcome := .failed, bytes := ListReply.failed.encode order }
  | .setup | .quit => none

end BoxOffice
