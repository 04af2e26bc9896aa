import BoxOffice.Dispatch.Queue
/-!
# Callers at the queue

Many callers share one queue: together they are a `Crowd`.  A caller takes a turn under the lock; if it
has to wait it does so until someone wakes it, and then takes another turn; when its turn is over it may
have to give a notice, which it does after it has let go of the lock.  A notice to one wakes one of those
who wait for it, if any do; a caller may also wake for no reason.

`Crowd.Step` is the relation of all that can happen next.  `Crowd.call` plays one of the possible
courses: a new caller comes and everyone takes turns, those who wait longest first, until all have their
answers or wait.
-/

namespace BoxOffice

open Queue

inductive Stage (α : Type) where
  /-- It has not had a turn. -/
  | entering
  | waiting
  /-- It was waiting and wants another turn. -/
  | woken
  /-- Its turn is over and it has to give a notice. -/
  | notifying (result : Except Fault (Answer α)) (notice : Notice)
  | returned (result : Except Fault (Answer α))

structure Caller (α : Type) where
  call : Call α
  stage : Stage α := .entering

/-- A queue and all who have ever called, in the order in which they came. -/
structure Crowd (α : Type) where
  queue : Queue α
  callers : List (Caller α) := []

namespace Caller

variable {α : Type}

def isWaiting (c : Caller α) : Bool := match c.stage with
  | .waiting => true
  | _ => false

def wantsTurn (c : Caller α) : Bool := match c.stage with
  | .entering | .woken => true
  | _ => false

def result? (c : Caller α) : Option (Except Fault (Answer α)) := match c.stage with
  | .returned result => some result
  | _ => none

/-- The caller waits for notices of this kind. -/
def heeds (c : Caller α) (notice : Notice) : Bool :=
  c.isWaiting && match notice, c.call with
    | .oneProducer, .enqueue _ => true
    | .oneConsumer, .dequeue => true
    | .everyone, _ => true
    | _, _ => false

end Caller

namespace Crowd

variable {α : Type}

def move (c : Crowd α) (i : Nat) (stage : Stage α) : Crowd α :=
  { c with callers := c.callers.modify i fun caller => { caller with stage } }

/-- The crowd with one more caller, who has not had a turn. -/
def arrive (c : Crowd α) (call : Call α) : Crowd α :=
  { c with callers := c.callers ++ [{ call }] }

def takeTurn (c : Crowd α) (i : Nat) (call : Call α) : Crowd α :=
  match c.queue.turn call with
  | .waits => c.move i .waiting
  | .ends result queue .nobody => { c with queue }.move i (.returned result)
  | .ends result queue notice => { c with queue }.move i (.notifying result notice)

/-- Those who wait and heed the notice are woken. -/
def wakeAll (c : Crowd α) (notice : Notice) : Crowd α :=
  { c with callers := c.callers.map fun caller =>
      if caller.heeds notice then { caller with stage := .woken } else caller }

/-- What can happen next. -/
inductive Step : Crowd α → Crowd α → Prop where
  /-- Someone comes. -/
  | arrive (c : Crowd α) (call : Call α) : Step c (c.arrive call)
  /-- Someone who wants a turn gets it. -/
  | turn (c : Crowd α) (i : Nat) (caller : Caller α) (here : c.callers[i]? = some caller)
      (wants : caller.wantsTurn) : Step c (c.takeTurn i caller.call)
  /-- Someone gives a notice that all are to have. -/
  | tellAll (c : Crowd α) (i : Nat) (call : Call α) (result : Except Fault (Answer α))
      (here : c.callers[i]? = some ⟨call, .notifying result .everyone⟩) :
      Step c ((c.wakeAll .everyone).move i (.returned result))
  /-- Someone gives a notice that one is to have, and `j` has it. -/
  | tellOne (c : Crowd α) (i j : Nat) (call : Call α) (result : Except Fault (Answer α))
      (notice : Notice) (heard : Caller α)
      (here : c.callers[i]? = some ⟨call, .notifying result notice⟩)
      (one : notice = .oneProducer ∨ notice = .oneConsumer)
      (there : c.callers[j]? = some heard) (heeds : heard.heeds notice) :
      Step c ((c.move j .woken).move i (.returned result))
  /-- Someone gives a notice that one is to have, and nobody waits for it. -/
  | tellNone (c : Crowd α) (i : Nat) (call : Call α) (result : Except Fault (Answer α))
      (notice : Notice) (here : c.callers[i]? = some ⟨call, .notifying result notice⟩)
      (one : notice = .oneProducer ∨ notice = .oneConsumer)
      (none : ∀ caller ∈ c.callers, caller.heeds notice = false) :
      Step c (c.move i (.returned result))
  /-- Someone wakes for no reason. -/
  | spurious (c : Crowd α) (i : Nat) (caller : Caller α) (here : c.callers[i]? = some caller)
      (waits : caller.isWaiting) : Step c (c.move i .woken)

/-- What can come of an empty queue. -/
inductive Reachable (capacity : Nat) : Crowd α → Prop where
  | start : Reachable capacity { queue := { capacity } }
  | next {c d : Crowd α} : Reachable capacity c → Step c d → Reachable capacity d

/-! ## One course of events -/

/-- Caller `i` gives its notice; of those who heed a notice to one, the first is woken. -/
def tell (c : Crowd α) (i : Nat) (result : Except Fault (Answer α)) (notice : Notice) : Crowd α :=
  match notice with
  | .everyone => (c.wakeAll .everyone).move i (.returned result)
  | .nobody => c.move i (.returned result)
  | notice =>
    match c.callers.findIdx? (·.heeds notice) with
    | some j => (c.move j .woken).move i (.returned result)
    | none => c.move i (.returned result)

/-- The first caller who can do something does it. -/
def act? (c : Crowd α) : Option (Crowd α) :=
  match c.callers.zipIdx.find? fun (caller, _) => match caller.stage with
    | .waiting | .returned _ => false
    | _ => true with
  | some (⟨_, .notifying result notice⟩, i) => some (c.tell i result notice)
  | some (⟨call, _⟩, i) => some (c.takeTurn i call)
  | none => none

/-- Everyone acts, up to `n` times in all. -/
def settleIn : Nat → Crowd α → Crowd α
  | 0, c => c
  | n + 1, c => match c.act? with
    | some c => settleIn n c
    | none => c

/-- Everyone acts until nobody can: a caller has a turn, perhaps another after it was woken, and
perhaps a notice to give. -/
def settle (c : Crowd α) : Crowd α := c.settleIn (4 * c.callers.length + 4)

def call (c : Crowd α) (call : Call α) : Crowd α := (c.arrive call).settle

def results (c : Crowd α) : List (Nat × Except Fault (Answer α)) :=
  c.callers.zipIdx.filterMap fun (caller, i) => caller.result?.map fun result => (i, result)

def waiting (c : Crowd α) : Nat := c.callers.countP (·.isWaiting)

end Crowd

end BoxOffice
