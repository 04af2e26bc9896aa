import BoxOffice.CommandLine
import BoxOffice.Job.File
import BoxOffice.Journal.Filter
import BoxOffice.Listing
import BoxOffice.Office.Premises
import BoxOffice.Settings.Search
/-!
# The program

What a call of the program does to the host that it runs on, and what it prints.  A client is run to
its end by `Host.run`; a server is started by it and goes on until `Host.stop`.  A failure is told
from the outside in: what was to be done, then what was done to that end, and last what went wrong.
-/

namespace BoxOffice

variable [Platform]

/-- What went wrong, and what it went wrong in; the last is the innermost. -/
abbrev Failure := List String

inductive Purpose where
  | loadSettings
  /-- To do what the call asks for. -/
  | obey
  | openOffice
  | becomeClient
  | doJob (script : Path)
  | leave
  deriving DecidableEq, Repr

/-- That it was not done. -/
def Purpose.missed : Purpose → String
  | .loadSettings => "Failed to load configuration"
  | .obey => "Application failed"
  | .openOffice => "Failed to start server"
  | .becomeClient => "Failed to set up EMS"
  | .doJob script => s!"Job script {script.shown} aborted"
  | .leave => "Failed to close session"

structure Printed where
  out : String := ""
  err : String := ""
  deriving DecidableEq, Repr

def Printed.say (p : Printed) (text : String) : Printed := { p with out := p.out ++ text }

def Printed.complain (p : Printed) (text : String) : Printed := { p with err := p.err ++ text }

structure Exit extends Printed where
  code : Nat
  deriving DecidableEq, Repr

inductive Launch where
  /-- The call makes no sense. -/
  | misused (fault : UsageFault)
  | over (exit : Exit)
  /-- A server is running. -/
  | serving (printed : Printed)
  deriving DecidableEq, Repr

/-- All that the processes on a machine share. -/
structure Host where
  premises : Premises
  /-- The file with a user's own settings. -/
  ownSettings : Settings.Place := .error (.file .noEntry)
  /-- Someone has begun to write the log. -/
  logged : Bool := false

def Fault.causes (f : Fault) : Failure :=
  match f with
  | .io why => [f.message, why.message]
  | _ => [f.message]

namespace Failure

/-- The lines of a text, those behind the first indented. -/
def indented (first later : String) (text : String) : String :=
  match text.splitOn "\n" with
  | [] => first
  | line :: lines =>
    first ++ line ++ String.join (lines.map fun l => "\n" ++ if l.isEmpty then "" else later ++ l)

/-- The causes of a failure, numbered where there are several. -/
def causesText (causes : List String) : String :=
  match causes with
  | [] => ""
  | [cause] => "\n\nCaused by:\n" ++ indented "    " "    " cause
  | _ => "\n\nCaused by:" ++ String.join (causes.zipIdx.map fun (cause, i) =>
      let number := toString i
      "\n" ++ indented (String.ofList (List.replicate (4 - number.length) ' ') ++ number ++ ": ")
        "      " cause)

def text : Failure → String
  | [] => ""
  | outermost :: causes => s!"Error: {outermost}" ++ causesText causes

end Failure

/-- The end of a run in which something failed that was to be done for some purposes, the widest
first. -/
def Exit.failed (p : Printed) (purposes : List Purpose) (causes : Failure) : Exit :=
  { p.complain (Failure.text (purposes.map Purpose.missed ++ causes)) with code := 1 }

namespace Host

def settingsName : Path := .ofString "ems.yml"

def place (h : Host) (p : Path) : Settings.Place :=
  match h.premises.directory.contents p with
  | .error why => .error why
  | .ok contents => contents

def settings (h : Host) (config : Option Path) : Except SettingsFault Settings :=
  Settings.load (config.map fun p => (p, h.place p)) [h.ownSettings, h.place settingsName]

def warnings (s : Settings) : String :=
  String.join ((Filter.ofText (s.logLevel.getD "info")).2.map FilterFault.warning)

def verbose : String := "Verbose mode enabled\n"

def listening (endpoint : Path) : String := s!"Server listening on {endpoint.shown}\n"

def connected (sessionId : Int32) : String :=
  s!"Setup completed successfully. Session ID {sessionId} has been assigned.\n"

def finished (s : JobSummary) (output : Path) : String :=
  s!"Done: {s.requests} requests ({s.failures} failed, {s.invalid} invalid lines), " ++
    s!"output in {output.shown}\n"

def runServer (h : Host) (p : Printed) (s : OfficeSettings) : Launch × Host :=
  match Premises.openOffice s h.premises with
  | (.error fault, premises) =>
    (.over (.failed p [.obey, .openOffice] fault.causes), { h with premises })
  | (.ok (), premises) => (.serving (p.say (listening s.endpoint)), { h with premises })

def runClient (h : Host) (p : Printed) (s : ClientSettings)
    (request response server script : Path) : Exit × Host :=
  match outputPath script with
  | .error fault => (.failed p [.obey] fault.causes, h)
  | .ok _ =>
    match Premises.connect request response server s.order h.premises with
    | (.error fault, premises) => (.failed p [.obey, .becomeClient] fault.causes, { h with premises })
    | (.ok client, premises) =>
      let job := runFile (Premises.desk client) s.maxReservation script premises premises.directory
      let premises := { job.office with directory := job.directory }
      let p := (p.say (connected client.sessionId ++ job.record.said false)).complain
        (job.record.said true)
      match job.result with
      | .error fault =>
        (.failed p [.obey, .doJob script] fault.causes, { h with premises := premises.drop client })
      | .ok (output, summary) =>
        match Premises.quit client premises with
        | (.error fault, premises) => (.failed p [.obey, .leave] fault.causes, { h with premises })
        | (.ok (), premises) =>
          ({ p.say (finished summary output) with code := 0 }, { h with premises })

def run (h : Host) (args : List String) : Launch × Host :=
  match CommandLine.ofArgs args with
  | .error fault => (.misused fault, h)
  | .ok call =>
    match h.settings call.config with
    | .error fault => (.over (.failed {} [.loadSettings] fault.causes), h)
    | .ok settings =>
      let h := { h with logged := true }
      let p : Printed :=
        { out := if call.verbose then verbose else "", err := warnings settings }
      match call.task with
      | .server endpoint delay workers =>
        let s := settings.officeAt endpoint delay
        h.runServer p { s with workers := workers.getD s.workers }
      | .client request response server script =>
        let (exit, h) := h.runClient p settings.client request response server script
        (.over exit, h)

/-- What the server prints when it is asked for all its events. -/
def dump (h : Host) : Option String := do
  return Listing.dumpText (← (← h.premises.office).store.dump.toOption)

/-- Ends the server for a reason, after it has printed something. -/
def stop (h : Host) (reason : String) (p : Printed) : Exit × Host :=
  let (_, premises) := h.premises.closeOffice
  ({ p.say s!"Shutting down: {reason}\nServer stopped\n" with code := 0 }, { h with premises })

end Host

/-- The machine that the program is made for. -/
instance : Platform := .x86_64

end BoxOffice
