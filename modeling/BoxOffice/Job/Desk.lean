import BoxOffice.Seating.Store
import BoxOffice.Wire.Reply
/-!
# Desks

A `Desk` is a back end: where the requests of a job are taken to.  It answers each of them with what
a client learns from it, or with a fault when it cannot be reached.  The simplest desk is the store
itself, which is always within reach; another is a session at the other end of two pipes.
-/

namespace BoxOffice

variable [Platform]

/-- Answers any request; `σ` is all that the answers depend on. -/
def Desk (σ : Type) := (m : Request) → Attempt σ m.Result

/-- The desk of a store at hand. -/
def Store.desk : Desk Store
  | .create id rows cols => fun s =>
    let (result, s) := s.create id rows cols
    (.ok (.ofResult result), s)
  | .reserve id seats => fun s =>
    let (result, s) := s.reserve id seats
    (.ok (.ofResult result), s)
  | .view id => fun s => (.ok (.ofResult (s.snapshot id)), s)
  | .list => fun s => (.ok (.found s.list), s)
  | .quit => fun s => (.ok (), s)

end BoxOffice
