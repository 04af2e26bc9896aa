import BoxOffice.Office.Basic
/-!
# The premises

The premises are a directory and perhaps an office that is open in it.  Whoever wants to be a client
makes two pipes in the directory, writes an announcement to the office's acceptor, and is then served
until it leaves; its pipes are taken away when it leaves, and also when nothing came of its
announcement.
-/

namespace BoxOffice

variable [Platform]

structure Premises where
  directory : Directory
  office : Option Office := none
  /-- What clients, and those who close an office, have noted down. -/
  notes : Array Note := #[]

structure Client where
  ticket : Nat
  sessionId : Int32
  setup : Setup

namespace Premises

def openOffice (settings : OfficeSettings) : Attempt Premises Unit := fun p =>
  match settings.queue with
  | .error fault => (.error fault, p)
  | .ok queue =>
    match p.directory.makePipe settings.endpoint with
    | .error fault => (.error fault, p)
    | .ok directory =>
      match directory.openForReading settings.endpoint with
      | .error fault => (.error fault, { p with directory })
      | .ok (endpoint, _) =>
        let office := { settings, endpoint, store := settings.store, queue }
        (.ok (), { p with directory, office := some office })

def settle (p : Premises) : Premises :=
  match p.office with
  | none => p
  | some o =>
    let (o, directory) := o.settle p.directory
    { p with directory, office := some o }

/-- Bytes are written to what stands at the end of a route: the acceptor, or a file. -/
def write (p : Premises) (r : Route) (bytes : List UInt8) : Premises :=
  match p.office with
  | none => { p with directory := p.directory.overwrite r bytes }
  | some o =>
    if o.endpoint = r then
      let (o, directory) := o.arrive p.directory bytes
      { p with directory, office := some o }
    else { p with directory := p.directory.overwrite r bytes }

def clear (p : Premises) (path : Path) : Premises :=
  match p.directory.clear path with
  | .ok directory => { p with directory }
  | .error fault => { p with notes := p.notes.push (.pipeNotRemoved fault) }

def clearPipes (p : Premises) (m : Setup) : Premises :=
  (p.clear (.ofString m.request)).clear (.ofString m.response)

/-- A client's announcement and its bytes. -/
def announcement (request response : Path) : Except Fault (Setup × List UInt8) := do
  let m : Setup := { request := ← endpointName request, response := ← endpointName response }
  return (m, ← m.encode)

def withLink {α : Type} (ticket : Nat) (r : Attempt Link α) : Attempt Premises α := fun p =>
  match p.office with
  | none => (.error (.transport .sessionClosed), p)
  | some o =>
    let (result, o) := Office.withLink ticket r o
    (result, { p with office := some o })

/-- The client who has come since tickets with lower numbers were given out. -/
def newcomer? (p : Premises) (firstTicket : Nat) (m : Setup) : Option Served := do
  (← p.office).served.find? fun c => firstTicket ≤ c.ticket && c.setup == m

/-- Announces a client and waits for its greeting, both pipes being there.  Where nobody takes the
client, no greeting will come. -/
def announce (server : Path) (order : ByteOrder) (m : Setup) (bytes : List UInt8) :
    Attempt Premises Client := fun p =>
  match p.directory.openForWriting server with
  | .error fault => (.error fault, p)
  | .ok (route, _) =>
    let firstTicket := (p.office.map (·.nextTicket)).getD 0
    let p := p.write route bytes
    match p.newcomer? firstTicket m with
    | none => ((SetupReply.decode order []).1.map fun r => ⟨firstTicket, r.sessionId, m⟩, p)
    | some c =>
      let greeted : Attempt Link SetupReply := fun l =>
        Link.read (SetupReply.decode order) { l with order }
      let (reply, p) := withLink c.ticket greeted p
      (reply.map fun r => ⟨c.ticket, r.sessionId, m⟩, p)

def connect (request response server : Path) (order : ByteOrder) : Attempt Premises Client := fun p =>
  match announcement request response with
  | .error fault => (.error fault, p)
  | .ok (m, bytes) =>
    match p.directory.makePipe request with
    | .error fault => (.error fault, p)
    | .ok directory =>
      match directory.makePipe response with
      | .error fault =>
        (.error fault, { p with directory := (directory.clear request).toOption.getD directory })
      | .ok directory =>
        match announce server order m bytes { p with directory } with
        | (.ok client, p) => (.ok client, p)
        | (.error fault, p) => (.error fault, p.clearPipes m)

def desk (c : Client) : Desk Premises := fun m => withLink c.ticket (Link.desk m)

/-- The office forgets a client that has left, and its pipes are taken away. -/
def dismiss (p : Premises) (c : Client) : Premises :=
  let p : Premises := { p with office := p.office.map fun o => o.dismiss c.ticket }
  p.settle.clearPipes c.setup

def quit (c : Client) : Attempt Premises Unit := fun p =>
  let (result, p) := desk c .quit p
  (result, p.dismiss c)

/-- A client goes without waiting to see whether it could quit. -/
def drop (p : Premises) (c : Client) : Premises :=
  match desk c .quit p with
  | (.ok (), p) => p.dismiss c
  | (.error fault, p) => { p with notes := p.notes.push (.quitNotSent fault) }.dismiss c

/-- Closes the office, which all clients have left; gives what was noted down in it. -/
def closeOffice (p : Premises) : List Note × Premises :=
  match p.office with
  | none => ([], p)
  | some o =>
    let waiting := o.queue.buffer.length
    let notes := if waiting = 0 then p.notes else p.notes.push (.clientsDropped waiting)
    (o.journal, { p with office := none, notes }.clear o.settings.endpoint)

end Premises

end BoxOffice
