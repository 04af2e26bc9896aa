import BoxOffice.Fault
/-!
# The dispatch queue

A queue of bounded length between those who announce clients and those who serve them.  What a call
does under the queue's lock is its turn: it passes, is refused because the queue is closed, or has to
wait until another turn has made room or brought an item.  `Queue.turn` is one turn; who may take it,
and when, is the subject of `Dispatch.Crowd`.
-/

namespace BoxOffice

/-- A queue that holds at most `capacity` items. -/
structure Queue (α : Type) where
  capacity : Nat
  /-- The oldest item first. -/
  buffer : List α := []
  closed : Bool := false
  deriving DecidableEq, Repr

namespace Queue

variable {α : Type}

/-- An empty queue with room for at least one item. -/
def new (capacity : Nat) : Except Fault (Queue α) :=
  if capacity = 0 then .error (.settings .noQueueCapacity) else .ok { capacity }

inductive Call (α : Type) where
  | enqueue (item : α)
  | dequeue
  | close
  deriving DecidableEq, Repr

inductive Answer (α : Type) where
  | enqueued
  | dequeued (item : α)
  /-- The items that nobody will take any more. -/
  | closed (dropped : List α)
  deriving DecidableEq, Repr

/-- Who is to be told that something has changed. -/
inductive Notice where
  | nobody
  | oneProducer
  | oneConsumer
  | everyone
  deriving DecidableEq, Repr

inductive Turn (α : Type) where
  /-- The call has to wait. -/
  | waits
  /-- The call is over; `queue` is left behind and `notice` is to be given. -/
  | ends (result : Except Fault (Answer α)) (queue : Queue α) (notice : Notice)

def isFull (q : Queue α) : Bool := q.buffer.length == q.capacity

def turn (q : Queue α) : Call α → Turn α
  | .enqueue item =>
    if !q.closed && q.isFull then .waits
    else if q.closed then .ends (.error .queueClosed) q .nobody
    else .ends (.ok .enqueued) { q with buffer := q.buffer ++ [item] } .oneConsumer
  | .dequeue =>
    if !q.closed && q.buffer.isEmpty then .waits
    else if q.closed then .ends (.error .queueClosed) q .nobody
    else match q.buffer with
      | [] => .ends (.error .queueClosed) q .nobody
      | item :: buffer => .ends (.ok (.dequeued item)) { q with buffer } .oneProducer
  | .close => .ends (.ok (.closed q.buffer)) { q with buffer := [], closed := true } .everyone

/-- What is told about a queue to those who develop the office. -/
def description (q : Queue α) : String :=
  s!"DispatchQueue \x7b capacity: {q.capacity}, .. \x7d"

end Queue

end BoxOffice
