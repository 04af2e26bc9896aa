import BoxOffice.Program
/-!
# The command

`main` runs a call of the program with the files and pipes of the machine it is on.  What is read and
what is written is decided by the library; here the bytes are moved.

The pipes of a server and of its clients have to be there beforehand, and stay there afterwards: the
system's `mkfifo` makes them.  A server goes on until it is ended from outside.
-/

namespace BoxOffice.Live

/-- What is done with files and pipes, and may fail. -/
abbrev Deed := ExceptT Failure IO

/-- A result that is needed for some purposes. -/
def needed {α : Type} (purposes : List Purpose) (result : Except Fault α) : Deed α :=
  match result with
  | .ok a => return a
  | .error fault => throw (purposes.map Purpose.missed ++ fault.causes)

/-! ## Files and pipes -/

def causeOf : IO.Error → IoCause
  | .noFileOrDirectory .. => .file .noEntry
  | .inappropriateType _ 20 _ => .file .notDirectory
  | .inappropriateType _ 21 _ => .file .isDirectory
  | .invalidArgument _ 36 _ => .file .nameTooLong
  | e => .stated (toString e)

/-- Does something, or says why the system refused. -/
def tried {α : Type} (act : IO α) : IO (Except IoCause α) := do
  try return .ok (← act)
  catch e => return .error (causeOf e)

def contents (p : Path) : IO (Except IoCause (List UInt8)) :=
  tried (do return (← IO.FS.readBinFile p.shown).toList)

def fill (p : Path) (bytes : List UInt8) : IO (Except IoCause Unit) :=
  tried (IO.FS.writeBinFile p.shown (ByteArray.mk bytes.toArray))

/-- Opens the end of a pipe that is read from, when someone has opened the other one. -/
def openForReading (p : Path) : IO (Except Fault IO.FS.Handle) :=
  return (← tried (IO.FS.Handle.mk p.shown .read)).mapError fun why =>
    .transport (.notOpenedForReading p why)

/-- Opens the end of a pipe that is written to, and the other one with it, so that nobody has to wait
for someone to open it. -/
def openForWriting (p : Path) : IO (Except Fault IO.FS.Handle) :=
  return (← tried (IO.FS.Handle.mk p.shown .readWrite)).mapError fun why =>
    .transport (.notOpenedForWriting p why)

def send (h : IO.FS.Handle) (bytes : List UInt8) : IO Unit := do
  h.write (ByteArray.mk bytes.toArray)
  h.flush

def receive (h : IO.FS.Handle) (n : Nat) : IO (List UInt8) :=
  return (← h.read (USize.ofNat n)).toList

/-- As many bytes of a pipe as a reading takes, those that have come already being the first. -/
partial def gather {α : Type} (h : IO.FS.Handle) (r : Attempt Source α) (come : List UInt8) :
    IO (List UInt8) := do
  match (r.run [.data come]).1 with
  | .error (.transport (.closedAfter got wanted)) =>
    let more ← receive h (wanted - got)
    if more.isEmpty then return come else gather h r (come ++ more)
  | _ => return come

/-! ## The server -/

/-- Takes turns at a queue until a call is over. -/
partial def await (queue : IO.Ref (Queue Setup)) (call : Queue.Call Setup) :
    IO (Except Fault (Queue.Answer Setup)) := do
  let result ← queue.modifyGet fun q => match q.turn call with
    | .waits => (none, q)
    | .ends result q _ => (some result, q)
  match result with
  | some result => return result
  | none =>
    IO.sleep 1
    await queue call

/-- Serves a client until the session is over. -/
partial def serve (store : IO.Ref Store) (requests replies : IO.FS.Handle) (s : Session) :
    IO Unit := do
  let front ← receive requests 1
  let bytes ← gather requests (Request.decode? s.order s.maxSeats) front
  let source : Source := if bytes.isEmpty then [.closed] else [.data bytes]
  let (ending, s) ← store.modifyGet fun held =>
    let (ending, s) := Session.catchUp { s with store := held, source }
    ((ending, s), s.store)
  send replies s.sink.written
  if ending.isNone then serve store requests replies { s with sink := {} }

/-- A worker of an office. -/
partial def work (s : OfficeSettings) (store : IO.Ref Store) (queue : IO.Ref (Queue Setup))
    (worker : Nat) : IO Unit := do
  match ← await queue .dequeue with
  | .ok (.dequeued m) =>
    let id := Int32.ofNat worker
    if let .ok requests ← openForReading (.ofString m.request) then
      if let .ok replies ← openForWriting (.ofString m.response) then
        let _ ← tried do
          send replies (SetupReply.encode s.order { sessionId := id })
          serve store requests replies
            { id, order := s.order, maxSeats := s.maxReservation, store := s.store, source := [] }
    work s store queue worker
  | _ => return ()

/-- Enters the clients who announce themselves into the queue. -/
partial def accept (s : OfficeSettings) (queue : IO.Ref (Queue Setup)) (pipe : IO.FS.Handle) :
    IO Unit := do
  let bytes ← gather pipe (Visit.next s.order) (← receive pipe 1)
  match (Visit.next s.order [.data bytes]).1 with
  | .ok .closed | .error _ => return ()
  | .ok (.client m) =>
    let _ ← await queue (.enqueue m)
    accept s queue pipe
  | .ok _ => accept s queue pipe

def runServer (s : OfficeSettings) : Deed Unit := do
  let purposes : List Purpose := [.obey, .openOffice]
  let queue ← IO.mkRef (← needed purposes s.queue)
  let store ← IO.mkRef s.store
  let pipe ← needed purposes (← openForWriting s.endpoint)
  for worker in List.range s.workers.toNat do
    let _ ← IO.asTask (work s store queue worker) .dedicated
  IO.print (Host.listening s.endpoint)
  (← IO.getStdout).flush
  accept s queue pipe

/-! ## The client -/

/-- Says what a job has remarked, and pauses where it pauses. -/
def say (j : Job Source) : IO (Job Source) := do
  for remark in j.record.remarks do
    if remark.isComplaint then IO.eprint remark.text else IO.print remark.text
    if let .waiting delay := remark then IO.sleep delay
  return { j with record := { j.record with remarks := #[] } }

/-- Does what is left of a job, whose desk is at the other ends of two pipes. -/
partial def doJob (order : ByteOrder) (requests replies : IO.FS.Handle) (j : Job Source) :
    IO (Except Fault JobSummary × Job Source) := do
  let desk : Desk Source := fun m => m.decodeResult order
  let office : Source ← match j.reader.next.1.toOption.bind Command.request? with
    | none => pure []
    | some m =>
      send requests (m.encode order)
      pure [.data (← gather replies (m.decodeResult order) [])]
  let (result, j) := Job.step desk { j with office }
  let j ← say j
  match result with
  | .error fault => return (.error fault, j)
  | .ok false => return (.ok j.record.summary, j)
  | .ok true => doJob order requests replies j

def runClient (s : ClientSettings) (request response server script : Path) : Deed Unit := do
  let output ← needed [.obey] (outputPath script)
  let becoming : List Purpose := [.obey, .becomeClient]
  let (_, announcement) ← needed becoming (Premises.announcement request response)
  let pipe ← needed becoming (← openForWriting server)
  send pipe announcement
  let requests ← needed becoming (← openForWriting request)
  let replies ← needed becoming (← openForReading response)
  let greeting ← gather replies (SetupReply.decode s.order) []
  let reply ← needed becoming (SetupReply.decode s.order [.data greeting]).1
  IO.print (Host.connected reply.sessionId)
  let doing : List Purpose := [.obey, .doJob script]
  let rest ← needed doing ((← contents script).mapError .io)
  needed doing ((← fill output []).mapError .io)
  let reader : ScriptReader := { rest, maxSeats := s.maxReservation }
  let (result, job) ← doJob s.order requests replies { office := [], reader }
  needed doing ((← fill output job.record.out.written).mapError .io)
  let summary ← needed doing result
  send requests (Request.quit.encode s.order)
  IO.print (Host.finished summary output)

/-! ## Calls -/

def ownSettings : IO Settings.Place := do
  let folder := (← IO.getEnv "XDG_CONFIG_HOME") <|>
    (← IO.getEnv "HOME").map (· ++ "/.config")
  match folder with
  | none => return .error (.file .noEntry)
  | some folder => contents (.ofString (folder ++ "/ems/ems.yml"))

def settings (config : Option Path) : Deed Settings := do
  let asking ← config.mapM fun p => return (p, ← contents p)
  match Settings.load asking [← ownSettings, ← contents Host.settingsName] with
  | .ok s => return s
  | .error fault => throw (Purpose.loadSettings.missed :: fault.causes)

def obey (call : CommandLine) : Deed Unit := do
  let s ← settings call.config
  IO.eprint (Host.warnings s)
  if call.verbose then IO.print Host.verbose
  match call.task with
  | .server endpoint delay workers =>
    let office := s.officeAt endpoint delay
    runServer { office with workers := workers.getD office.workers }
  | .client request response server script => runClient s.client request response server script

end BoxOffice.Live

open BoxOffice in
def main (args : List String) : IO UInt32 := do
  match CommandLine.ofArgs args with
  | .error .help =>
    IO.print CommandLine.usage
    return 0
  | .error .version =>
    IO.print CommandLine.edition
    return 0
  | .error _ =>
    IO.eprint CommandLine.usage
    return 2
  | .ok call =>
    match ← (Live.obey call).run with
    | .ok () => return 0
    | .error failure =>
      IO.eprintln failure.text
      return 1
