import BoxOffice.Wire.Opcode
/-!
# The journal

What the office notes down while it works.  A `Note` is what happened; `Note.line` is the line that is
written for it, with its level in front.
-/

namespace BoxOffice

inductive Level where
  | error
  | warn
  | info
  | debug
  deriving DecidableEq, Repr

namespace Level

def name : Level → String
  | .error => "ERROR"
  | .warn => "WARN"
  | .info => "INFO"
  | .debug => "DEBUG"

/-- Someone should look at it. -/
def isAlarming : Level → Bool
  | .error | .warn => true
  | .info | .debug => false

end Level

/-- What a script's request failed at. -/
inductive JobFailure where
  | create
  | reserve
  | view
  | list
  deriving DecidableEq, Repr

def JobFailure.text : JobFailure → String
  | .create => "Failed to create event"
  | .reserve => "Failed to reserve seats"
  | .view => "Failed to show event"
  | .list => "Failed to list events"

inductive Note where
  | created (id : UInt32) (rows cols : UInt64)
  | reserved (seats : Nat) (id n : UInt32)
  | sessionStarted (session : Int32)
  | requestReceived (session : Int32) (op : Opcode)
  | requestDone (session : Int32) (op : Opcode)
  | requestFailed (session : Int32) (op : Opcode) (fault : Fault)
  | byteDropped (session : Int32) (fault : Fault)
  | requestMalformed (session : Int32) (op : Opcode) (fault : Fault)
  | clientQuit (session : Int32)
  | clientClosed (session : Int32)
  | sessionBroken (session : Int32) (fault : Fault)
  | jobFailed (failure : JobFailure)
  | lineInvalid (number : Nat)
  | opcodeIgnored (op : Opcode)
  | setupMalformed (fault : Fault)
  | sessionNotStarted (worker : Nat) (fault : Fault)
  | clientsDropped (count : Nat)
  | quitNotSent (fault : Fault)
  | pipeNotRemoved (fault : Fault)
  deriving DecidableEq, Repr

namespace Note

def level : Note → Level
  | .created .. | .reserved .. | .requestReceived .. | .requestDone .. => .debug
  | .sessionStarted _ | .clientQuit _ | .clientClosed _ => .info
  | .requestFailed _ _ fault => if fault.isDomain then .info else .error
  | .byteDropped .. | .requestMalformed .. | .sessionBroken .. | .jobFailed _ | .lineInvalid _
  | .opcodeIgnored _ | .setupMalformed _ | .sessionNotStarted .. | .clientsDropped _
  | .quitNotSent _ | .pipeNotRemoved _ => .warn

/-- Who writes the note, in front of what happened; `none` for the store, a script and the acceptor. -/
def writer? : Note → Option String
  | .sessionStarted session | .requestReceived session _ | .requestDone session _
  | .requestFailed session _ _ | .byteDropped session _ | .requestMalformed session _ _
  | .clientQuit session | .clientClosed session | .sessionBroken session _ =>
    some s!"session {session}"
  | .sessionNotStarted worker _ => some s!"worker {worker}"
  | _ => none

def text : Note → String
  | .created id rows cols => s!"Created event {id} ({rows}x{cols})"
  | .reserved seats id n => s!"Reserved {seats} seat(s) on event {id} as reservation {n}"
  | .sessionStarted _ => "started"
  | .requestReceived _ op => s!"received {op.name}"
  | .requestDone _ op => s!"{op.name} ok"
  | .requestFailed _ op fault => s!"{op.name} failed: {fault.message}"
  | .byteDropped _ fault => s!"dropping request: {fault.message}"
  | .requestMalformed _ op fault => s!"malformed {op.name}: {fault.message}"
  | .clientQuit _ => "client quit"
  | .clientClosed _ => "client closed its endpoint"
  | .sessionBroken _ fault => s!"closed on transport error: {fault.message}"
  | .jobFailed failure => failure.text
  | .lineInvalid number => s!"Invalid command on line {number}"
  | .opcodeIgnored op => s!"Ignoring {op.name} on server endpoint"
  | .setupMalformed fault => s!"Malformed SETUP: {fault.message}"
  | .sessionNotStarted _ fault => s!"could not start session: {fault.message}"
  | .clientsDropped count => s!"Dropped {count} clients waiting for a worker"
  | .quitNotSent fault => s!"Failed to send QUIT on drop: {fault.message}"
  | .pipeNotRemoved fault => fault.message

/-- The line for a note whose writer is shown as `shown` says. -/
def lineWith (shown : String → String) (n : Note) : String :=
  match n.writer? with
  | some writer => s!"{n.level.name} [{shown writer}] {n.text}"
  | none => s!"{n.level.name} {n.text}"

/-- The line for a note. -/
def line (n : Note) : String := n.lineWith id

/-- The line for a note with its writer left open. -/
def anonymousLine (n : Note) : String := n.lineWith fun _ => "*"

end Note

/-- The lines of the notes that someone should look at. -/
def alarms (notes : List Note) : List String :=
  (notes.filter (·.level.isAlarming)).map Note.line

end BoxOffice
