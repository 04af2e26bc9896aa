import BoxOffice.Seating.Event
/-!
# The store of events

A `Store` keeps its events in the order in which they were created and never drops one.  Each
operation answers a value or a `Fault`; those that can change the store also give the store they
leave, which after a fault is the store they found.

`Call` and `perform` put the operations side by side, so that whole histories can be spoken of.
-/

namespace BoxOffice

structure Store where
  /-- In the order of their creation. -/
  events : List Event := []
  /-- The most seats that an event may have. -/
  maxEventSeats : UInt64 := defaultEventCap
  /-- How long a look-up is made to last, in microseconds. -/
  accessDelay : UInt64 := 0
  deriving DecidableEq, Repr

namespace Store

def empty (maxEventSeats : UInt64) (accessDelay : UInt64) : Store :=
  { maxEventSeats, accessDelay }

def find? (s : Store) (id : UInt32) : Option Event := s.events.find? (·.id == id)

/-- The event with this identifier, or the fault that there is none. -/
def lookup (s : Store) (id : UInt32) : Except Fault Event :=
  match s.find? id with
  | some e => .ok e
  | none => .error (.eventNotFound id)

/-- The store with `e` in the place of the event of the same identifier. -/
def replace (s : Store) (e : Event) : Store :=
  { s with events := s.events.map fun old => if old.id = e.id then e else old }

/-- Puts a new event on sale. -/
def create [Platform] (s : Store) (id : UInt32) (rows cols : UInt64) : Except Fault Unit × Store :=
  match s.find? id with
  | some _ => (.error (.eventExists id), s)
  | none =>
    match Event.bounded id rows cols s.maxEventSeats with
    | .error fault => (.error fault, s)
    | .ok e =>
      match Memory.growth? s.events.length with
      | some fault => (.error (.allocation (.eventList fault)), s)
      | none => (.ok (), { s with events := s.events ++ [e] })

/-- Reserves all of the seats or none, and answers the identifier of the reservation. -/
def reserve (s : Store) (id : UInt32) (seats : List Seat) : Except Fault UInt32 × Store :=
  match s.lookup id with
  | .error fault => (.error fault, s)
  | .ok e =>
    match e.reserve seats with
    | .error fault => (.error fault, s)
    | .ok (n, e') => (.ok n, s.replace e')

def snapshot (s : Store) (id : UInt32) : Except Fault Snapshot :=
  match s.lookup id with
  | .error fault => .error fault
  | .ok e => e.snapshot

def list (s : Store) : List UInt32 := s.events.map (·.id)

def snapshots : List Event → Except Fault (List Snapshot)
  | [] => .ok []
  | e :: es =>
    match e.snapshot with
    | .error fault => .error fault
    | .ok shot =>
      match snapshots es with
      | .error fault => .error fault
      | .ok shots => .ok (shot :: shots)

def dump (s : Store) : Except Fault (List Snapshot) := snapshots s.events

def size (s : Store) : Nat := s.events.length

def isEmpty (s : Store) : Bool := s.events.isEmpty

/-! ## Histories -/

inductive Call where
  | create (id : UInt32) (rows cols : UInt64)
  | reserve (id : UInt32) (seats : List Seat)
  | view (id : UInt32)
  | list
  | dump
  deriving DecidableEq, Repr

inductive Answer where
  | created (result : Except Fault Unit)
  | reserved (result : Except Fault UInt32)
  | viewed (result : Except Fault Snapshot)
  | listed (ids : List UInt32)
  | dumped (result : Except Fault (List Snapshot))

def perform [Platform] (s : Store) : Call → Answer × Store
  | .create id rows cols => let (r, s) := s.create id rows cols; (.created r, s)
  | .reserve id seats => let (r, s) := s.reserve id seats; (.reserved r, s)
  | .view id => (.viewed (s.snapshot id), s)
  | .list => (.listed s.list, s)
  | .dump => (.dumped s.dump, s)

def performAll [Platform] (s : Store) : List Call → List Answer × Store
  | [] => ([], s)
  | c :: cs =>
    let (a, s) := s.perform c
    let (as, s) := s.performAll cs
    (a :: as, s)

/-! ## Small laws -/

@[simp] theorem replace_maxEventSeats (s : Store) (e : Event) :
    (s.replace e).maxEventSeats = s.maxEventSeats := rfl

/-- Putting an event in the place of its namesake moves none. -/
@[simp] theorem list_replace (s : Store) (e : Event) : (s.replace e).list = s.list := by
  simp only [list, replace, List.map_map]
  refine List.map_congr_left fun old _ => ?_
  simp only [Function.comp]
  split <;> simp_all

theorem lookup_eq_ok_iff {s : Store} {id : UInt32} {e : Event} :
    s.lookup id = .ok e ↔ s.find? id = some e := by
  unfold lookup
  split <;> simp_all

end Store

end BoxOffice
