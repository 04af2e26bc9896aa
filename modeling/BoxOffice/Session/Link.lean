import BoxOffice.Job.Desk
import BoxOffice.Session.Basic
/-!
# Links

A `Link` is a session together with its client's end of the two pipes: what the client writes is what
the session reads, and what the session has sent waits in the client's inbox until the client reads
it.  `Link.desk` takes requests over the wire to the session's store.
-/

namespace BoxOffice

variable [Platform]

/-- What a client learns when the session at the other end of its pipe is gone. -/
def brokenPipe : Fault := .transport (.writeFailed "Broken pipe (os error 32)")

structure Link where
  session : Session
  /-- The order in which the client reads and writes. -/
  order : ByteOrder
  /-- What was sent to the client and not yet read. -/
  inbox : Source := []
  /-- Why the session is over, if it is. -/
  ending : Option Ending := none

namespace Link

/-- The session goes on as far as it can, and what it sends comes into the inbox. -/
def advance (l : Link) : Link :=
  let (ending, session) := l.session.catchUp
  { l with
    session := { session with sink := { session.sink with deliveries := [] } }
    inbox := l.inbox ++ [.data session.sink.written]
    ending }

/-- The client writes bytes, which a session that is over does not take. -/
def post (bytes : List UInt8) : Attempt Link Unit := fun l =>
  if l.ending.isSome then (.error brokenPipe, l)
  else
    (.ok (), advance { l with
      session := { l.session with source := l.session.source ++ [.data bytes] } })

def read {α : Type} (r : Attempt Source α) : Attempt Link α :=
  r.within Link.inbox fun inbox l => { l with inbox }

def desk : Desk Link := fun m l =>
  match post (m.encode l.order) l with
  | (.error fault, l) => (.error fault, l)
  | (.ok (), l) => read (m.decodeResult l.order) l

end Link

end BoxOffice
