import BoxOffice.Directory
import BoxOffice.Session.Basic
/-!
# Sessions that read their own replies

Requests and replies may go through one and the same file.  The session then reads the file from its
front and, at a place of its own, writes over it from its front, so that what it reads may be what it
has written.  Nothing says that this comes to an end: `Loop.serve` takes `patience` steps and no more.
-/

namespace BoxOffice

variable [Platform]

/-- A session and the file that is both its stream of requests and its stream of replies. -/
structure Loop where
  /-- What it has still to read is what is left of the file. -/
  session : Session
  file : List UInt8
  /-- How many bytes were written over the front of the file. -/
  written : Nat

namespace Loop

/-- How many steps a loop may take. -/
def patience : Nat := 100000

def ofFile (session : Session) (greeting file : List UInt8) : Loop :=
  let file := Directory.overwritten file 0 greeting
  { session := { session with source := [.data file] }, file, written := greeting.length }

def step (l : Loop) : Option Ending × Loop :=
  let (ending, s) := l.session.step
  let sent := s.sink.written
  let read := l.file.length - s.source.bytes.length
  let file := Directory.overwritten l.file l.written sent
  let session := { s with
    source := [.data (file.drop read)]
    sink := { s.sink with deliveries := [] } }
  (ending, { session, file, written := l.written + sent.length })

/-- Goes on until the session is over, at most so many steps. -/
def runIn : Nat → Loop → Ending × Loop
  | 0, l => (.peerClosed, l)
  | n + 1, l => match l.step with
    | (some ending, l) => (ending, l)
    | (none, l) => runIn n l

def serve (l : Loop) : Loop :=
  let (ending, l) := runIn patience
    { l with session := l.session.note (.sessionStarted l.session.id) }
  { l with session := l.session.note (Session.closingNote l.session.id ending) }

end Loop

end BoxOffice
