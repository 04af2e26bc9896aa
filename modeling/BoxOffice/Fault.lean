import BoxOffice.Path
import BoxOffice.Text.Escaped
/-!
# Faults

Everything that can go wrong, one type for the whole office.  A `Fault` names its cause by a
constructor; `message` alone words it.  Two classes of faults decide what happens next:

* `isDomain`: the store refused a request; the client is told so and goes on;
* `isTransport`: a stream broke; the session on it ends.
-/

namespace BoxOffice

open Text

/-- A place in the seating of an event: row and column, both counted from 1. -/
structure Seat where
  row : UInt64
  col : UInt64
  deriving DecidableEq, Repr, Inhabited

/-- Why memory was not given. -/
inductive MemoryFault where
  /-- No block of that size can exist. -/
  | tooLarge
  /-- There is no such block. -/
  | refused
  deriving DecidableEq, Repr

def MemoryFault.message : MemoryFault → String
  | .tooLarge =>
    "memory allocation failed because the computed capacity exceeded the collection's maximum"
  | .refused => "memory allocation failed because the memory allocator returned an error"

inductive FileFault where
  | noEntry
  | alreadyThere
  | notDirectory
  | isDirectory
  | nameTooLong
  deriving DecidableEq, Repr

namespace FileFault

def text : FileFault → String
  | .noEntry => "No such file or directory"
  | .alreadyThere => "File exists"
  | .notDirectory => "Not a directory"
  | .isDirectory => "Is a directory"
  | .nameTooLong => "File name too long"

def number : FileFault → Nat
  | .noEntry => 2
  | .alreadyThere => 17
  | .notDirectory => 20
  | .isDirectory => 21
  | .nameTooLong => 36

def symbol : FileFault → String
  | .noEntry => "ENOENT"
  | .alreadyThere => "EEXIST"
  | .notDirectory => "ENOTDIR"
  | .isDirectory => "EISDIR"
  | .nameTooLong => "ENAMETOOLONG"

def message (f : FileFault) : String := s!"{f.text} (os error {f.number})"

end FileFault

/-- Why reading, writing or opening a file failed. -/
inductive IoCause where
  | file (fault : FileFault)
  /-- A path holds a zero byte, so no file can have it. -/
  | zeroInPath
  /-- A line is not UTF-8. -/
  | notText
  /-- A device took none of the bytes offered. -/
  | nothingWritten
  /-- In the words of the device. -/
  | stated (text : String)
  deriving DecidableEq, Repr

def IoCause.message : IoCause → String
  | .file fault => fault.message
  | .zeroInPath => "file name contained an unexpected NUL byte"
  | .notText => "stream did not contain valid UTF-8"
  | .nothingWritten => "failed to write whole buffer"
  | .stated text => text

/-- Why seats, frames or identifiers ran out. -/
inductive AllocationCause where
  /-- The number of seats is no 64-bit number. -/
  | gridOverflow (rows cols : UInt64)
  /-- The number of seats is above the cap of the store. -/
  | gridOverCap (rows cols cap : UInt64)
  | gridMemory (rows cols : UInt64) (fault : MemoryFault)
  | eventList (fault : MemoryFault)
  | frameMemory (bytes : Nat) (fault : MemoryFault)
  | fieldsMemory (count : Nat) (fault : MemoryFault)
  /-- The event has given out its last reservation identifier. -/
  | idsExhausted (event : UInt32)
  | stated (text : String)
  deriving DecidableEq, Repr

def AllocationCause.message : AllocationCause → String
  | .gridOverflow rows cols => s!"grid {rows}x{cols} overflows"
  | .gridOverCap rows cols cap => s!"grid {rows}x{cols} exceeds {cap} seats per event"
  | .gridMemory rows cols fault => s!"grid {rows}x{cols}: {fault.message}"
  | .eventList fault => s!"event list: {fault.message}"
  | .frameMemory bytes fault => s!"frame of {bytes} bytes: {fault.message}"
  | .fieldsMemory count fault => s!"{count} fields: {fault.message}"
  | .idsExhausted event => s!"event {event}: reservation ids exhausted"
  | .stated text => text

/-- What is wrong with a message. -/
inductive ProtocolCause where
  | unknownOpcode (byte : UInt8)
  /-- A field is wider than what is left of its frame. -/
  | shortFrame (left needed : Nat)
  /-- A text field has no zero byte at its end. -/
  | unterminated (width : Nat)
  | notText (fault : Utf8Fault)
  | tooManySeats (count limit : UInt64)
  /-- A session is set up once. -/
  | setupInSession
  | gridOverflow (rows cols : UInt64)
  | fieldsOverflow (count width : Nat)
  | stated (text : String)
  deriving DecidableEq, Repr

def ProtocolCause.message : ProtocolCause → String
  | .unknownOpcode byte => s!"unknown opcode 0x{hexOfByte byte}"
  | .shortFrame left needed => s!"frame has {left} bytes left, field needs {needed}"
  | .unterminated width => s!"string field of {width} bytes is not terminated"
  | .notText fault => s!"string field is not UTF-8: {fault.message}"
  | .tooManySeats count limit => s!"reservation of {count} seats exceeds limit of {limit}"
  | .setupInSession => "SETUP received on an established session"
  | .gridOverflow rows cols => s!"grid {rows}x{cols} overflows"
  | .fieldsOverflow count width => s!"{count} fields of {width} bytes overflow"
  | .stated text => text

/-- How a stream or the endpoint at its end failed. -/
inductive TransportCause where
  | closedDuringWrite
  | writeFailed (why : String)
  | flushFailed (why : String)
  | closedAfter (received wanted : Nat)
  | readFailed (why : String)
  /-- The seats announced are more bytes than there are numbers. -/
  | undrainable (count : UInt64)
  | sessionClosed
  | notRemoved (path : Path) (why : IoCause)
  | pipeNotCreated (path : Path) (why : FileFault)
  | notOpenedForReading (path : Path) (why : IoCause)
  | notOpenedForWriting (path : Path) (why : IoCause)
  | stated (text : String)
  deriving DecidableEq, Repr

def TransportCause.message : TransportCause → String
  | .closedDuringWrite => "peer closed during write"
  | .writeFailed why => s!"write failed: {why}"
  | .flushFailed why => s!"flush failed: {why}"
  | .closedAfter received wanted => s!"peer closed after {received} of {wanted} bytes"
  | .readFailed why => s!"read failed: {why}"
  | .undrainable count => s!"seat count {count} cannot be drained"
  | .sessionClosed => "session already closed"
  | .notRemoved path why => s!"failed to remove {path.shown}: {why.message}"
  | .pipeNotCreated path why => s!"failed to create fifo {path.shown}: {why.symbol}: {why.text}"
  | .notOpenedForReading path why => s!"failed to open {path.shown} for reading: {why.message}"
  | .notOpenedForWriting path why => s!"failed to open {path.shown} for writing: {why.message}"
  | .stated text => text

/-- What is wrong with the name of an endpoint. -/
inductive NameCause where
  /-- A text leaves no room for the zero byte that ends its field. -/
  | textTooLong (text : String) (bytes limit : Nat)
  /-- A text holds the byte that would end it. -/
  | holdsZero (text : String)
  | notText (path : Path)
  | empty
  | tooLong (name : String) (bytes limit : Nat)
  | stated (text : String)
  deriving DecidableEq, Repr

def NameCause.message : NameCause → String
  | .textTooLong text bytes limit => s!"'{text}' is {bytes} bytes, limit is {limit}"
  | .holdsZero text => s!"'{escaped text}' contains NUL"
  | .notText path => s!"{path.shown} is not valid UTF-8"
  | .empty => "empty endpoint name"
  | .tooLong name bytes limit => s!"{name} is {bytes} bytes, limit is {limit}"
  | .stated text => text

/-- Which setting makes no sense. -/
inductive SettingsCause where
  | noReservationSize
  | noQueueCapacity
  | stated (text : String)
  deriving DecidableEq, Repr

def SettingsCause.message : SettingsCause → String
  | .noReservationSize => "max_reservation_size must be positive"
  | .noQueueCapacity => "dispatch queue capacity must be positive"
  | .stated text => text

inductive Fault where
  | eventExists (id : UInt32)
  | eventNotFound (id : UInt32)
  | invalidDimensions (rows cols : UInt64)
  | seatOutOfBounds (seat : Seat)
  | seatTaken (seat : Seat)
  | emptyReservation
  | allocation (cause : AllocationCause)
  | lockPoisoned (text : String)
  | queueClosed
  | protocol (cause : ProtocolCause)
  | transport (cause : TransportCause)
  | endpointName (cause : NameCause)
  | settings (cause : SettingsCause)
  /-- A job script has to be called something and then `.jobs`. -/
  | scriptPath (path : Path)
  | io (cause : IoCause)
  /-- A grid does not have one marker for each of its seats; nothing can be answered then. -/
  | corruptGrid (event : UInt32) (held : Nat) (rows cols : UInt64)
  deriving DecidableEq, Repr

namespace Fault

def message : Fault → String
  | .eventExists id => s!"Event already exists: {id}"
  | .eventNotFound id => s!"Event not found: {id}"
  | .invalidDimensions rows cols => s!"Invalid dimensions: {rows}x{cols}"
  | .seatOutOfBounds seat => s!"Seat out of bounds: ({seat.row}, {seat.col})"
  | .seatTaken seat => s!"Seat already reserved: ({seat.row}, {seat.col})"
  | .emptyReservation => "Reservation contains no seats"
  | .allocation cause => s!"Allocation failed: {cause.message}"
  | .lockPoisoned text => s!"Lock poisoned: {text}"
  | .queueClosed => "Dispatch queue closed"
  | .protocol cause => s!"Protocol error: {cause.message}"
  | .transport cause => s!"Transport error: {cause.message}"
  | .endpointName cause => s!"Invalid endpoint name: {cause.message}"
  | .settings cause => s!"Config error: {cause.message}"
  | .scriptPath path => s!"The provided .jobs file path is not valid. Path: {path.shown}"
  | .io cause => s!"IO error: {cause.message}"
  | .corruptGrid event held rows cols =>
    s!"event {event} grid holds {held} seats but is {rows}x{cols}, aborting"

/-- The store refused the request and nothing else happened. -/
def isDomain : Fault → Bool
  | .eventExists _ | .eventNotFound _ | .invalidDimensions .. | .seatOutOfBounds _ | .seatTaken _
  | .emptyReservation | .allocation _ => true
  | _ => false

/-- The stream can carry no further message. -/
def isTransport : Fault → Bool
  | .transport _ | .io _ => true
  | _ => false

end Fault

end BoxOffice
