import BoxOffice.Endpoint
import BoxOffice.Office.Acceptor
import BoxOffice.Office.Settings
import BoxOffice.Session.Link
import BoxOffice.Session.Loop
/-!
# The office

An `Office` is a server: its acceptor reads who comes, a queue keeps them, and workers take them from
the queue and serve each in a session of its own; all sessions work on the one store.

`Office.settle` lets everyone do what there is to do, until all wait: the acceptor for an announcement
or for room in the queue, each worker for a client or for its client's next request.  Of the idle workers
the first takes the next client.
-/

namespace BoxOffice

variable [Platform]

structure Served where
  /-- Tells the clients of an office apart. -/
  ticket : Nat
  worker : Nat
  setup : Setup
  link : Link

structure Office where
  settings : OfficeSettings
  /-- The pipe of the acceptor. -/
  endpoint : Route
  store : Store
  queue : Queue Setup
  /-- What was written to the acceptor and is no whole visit yet, or waits behind `threshold`. -/
  arrived : List UInt8 := []
  /-- A client for whom there is no room in the queue. -/
  threshold : Option Setup := none
  served : List Served := []
  nextTicket : Nat := 0
  notes : Array Note := #[]

namespace Office

def note (o : Office) (ns : List Note) : Office := { o with notes := o.notes ++ ns }

/-- The first worker, among those up to the bound, who serves nobody. -/
def idleFrom (busy : List Nat) : Nat → Nat → Option Nat
  | _, 0 => none
  | i, n + 1 => if busy.contains i then idleFrom busy (i + 1) n else some i

def busy (o : Office) : List Nat :=
  (o.served.filter (·.link.ending.isNone)).map (·.worker)

/-- A worker who serves nobody. -/
def idle? (o : Office) : Option Nat :=
  idleFrom o.busy 0 (min o.settings.workers.toNat (o.busy.length + 1))

def session (o : Office) (worker : Nat) (source : Source) : Session where
  id := Int32.ofNat worker
  order := o.settings.order
  maxSeats := o.settings.maxReservation
  store := o.store
  source

def greeting (o : Office) (worker : Nat) : List UInt8 :=
  SetupReply.encode o.settings.order { sessionId := Int32.ofNat worker }

/-- Serves someone who has written all requests in advance.  The replies go into a file, or to the
acceptor. -/
def serveAll (o : Office) (d : Directory) (worker : Nat) (source : Source) (replies : Route) :
    Office × Directory :=
  let (_, s) := (o.session worker source).serve
  let sent := o.greeting worker ++ s.sink.written
  let o := { o with store := s.store, notes := o.notes ++ s.notes }
  if replies = o.endpoint then ({ o with arrived := o.arrived ++ sent }, d)
  else (o, d.overwrite replies sent)

/-- Serves someone whose requests and replies are in one file. -/
def serveLoop (o : Office) (d : Directory) (worker : Nat) (file : List UInt8) (route : Route) :
    Office × Directory :=
  let l := (Loop.ofFile (o.session worker []) (o.greeting worker) file).serve
  ({ o with store := l.session.store, notes := o.notes ++ l.session.notes },
    d.put route (.file l.file))

/-- Begins to serve someone at the other ends of two pipes. -/
def serve (o : Office) (worker : Nat) (m : Setup) : Office :=
  let session := o.session worker []
  let link : Link :=
    { session := session.note (.sessionStarted session.id)
      order := o.settings.order
      inbox := [.data (o.greeting worker)] }
  { o with
    served := o.served ++ [{ ticket := o.nextTicket, worker, setup := m, link }]
    nextTicket := o.nextTicket + 1 }

def attend (o : Office) (d : Directory) (worker : Nat) (m : Setup) : Office × Directory :=
  match d.openForReading (.ofString m.request) with
  | .error fault => (o.note [.sessionNotStarted worker fault], d)
  | .ok (route, requests) =>
    match d.openForWriting (.ofString m.response) with
    | .error fault => (o.note [.sessionNotStarted worker fault], d)
    | .ok (replies, _) =>
      match requests with
      | .pipe => (o.serve worker m, d)
      | .file bytes =>
        if route = replies then o.serveLoop d worker bytes route
        else o.serveAll d worker [.data bytes] replies
      | .folder => o.serveAll d worker [.failed FileFault.isDirectory.message] replies

/-- Someone who has something to do does it. -/
def act? (o : Office) (d : Directory) : Option (Office × Directory) :=
  match o.idle?, o.queue.turn .dequeue with
  | some worker, .ends (.ok (.dequeued m)) queue _ => some ({ o with queue }.attend d worker m)
  | _, _ =>
    match o.threshold with
    | some m =>
      match o.queue.turn (.enqueue m) with
      | .waits => none
      | .ends _ queue _ => some ({ o with queue, threshold := none }, d)
    | none =>
      if Acceptor.missing o.arrived = 0 then
        match Visit.next o.settings.order [.data o.arrived] with
        | (.error _, _) => none
        | (.ok v, rest) =>
          let threshold := match v with
            | .client m => some m
            | _ => none
          some ({ o with arrived := rest.bytes, threshold }.note v.notes, d)
      else none

/-- Everyone acts, up to `n` times in all. -/
def settleIn : Nat → Office → Directory → Office × Directory
  | 0, o, d => (o, d)
  | n + 1, o, d => match o.act? d with
    | some (o, d) => settleIn n o d
    | none => (o, d)

/-- A bound on what there is to do: a byte that came is read once, and a client comes over the
threshold, into the queue and out of it. -/
def work (o : Office) : Nat :=
  o.arrived.length + 2 * (o.arrived.length + o.threshold.toList.length) + o.queue.buffer.length

/-- Everyone acts for a number of rounds, in each of which all is done that there is to do at its
beginning. -/
def rounds : Nat → Office → Directory → Office × Directory
  | 0, o, d => (o, d)
  | n + 1, o, d =>
    if o.work = 0 then (o, d)
    else
      let (o, d) := settleIn o.work o d
      if (o.act? d).isNone then (o, d) else rounds n o d

/-- Everyone acts until all wait.  One round is enough, unless replies come to the acceptor. -/
def settle (o : Office) (d : Directory) : Office × Directory := rounds Loop.patience o d

def arrive (o : Office) (d : Directory) (bytes : List UInt8) : Office × Directory :=
  settle { o with arrived := o.arrived ++ bytes } d

/-! ## Serving a client -/

def find? (o : Office) (ticket : Nat) : Option Served := o.served.find? (·.ticket == ticket)

def replace (o : Office) (c : Served) : Office :=
  { o with served := o.served.map fun old => if old.ticket = c.ticket then c else old }

/-- A client uses its link, on the office's store. -/
def withLink {α : Type} (ticket : Nat) (r : Attempt Link α) : Attempt Office α := fun o =>
  match o.find? ticket with
  | none => (.error (.transport .sessionClosed), o)
  | some c =>
    let session := { c.link.session with store := o.store }
    let (result, link) := r { c.link with session }
    (result, { o.replace { c with link } with store := link.session.store })

def desk (ticket : Nat) : Desk Office := fun m => withLink ticket (Link.desk m)

/-- Forgets a client, whose session has to be over; what it noted down is kept. -/
def dismiss (o : Office) (ticket : Nat) : Office :=
  match o.find? ticket with
  | none => o
  | some c =>
    { o with
      served := o.served.filter (·.ticket ≠ ticket)
      notes := o.notes ++ c.link.session.notes }

def journal (o : Office) : List Note :=
  o.notes.toList ++ o.served.flatMap (·.link.session.notes.toList)

end Office

end BoxOffice
