import BoxOffice.Job.Desk
import BoxOffice.Journal
import BoxOffice.Listing
import BoxOffice.Script.Reader
import BoxOffice.Stream.Sink
/-!
# Jobs

A job takes the commands of a script to a desk, one after the other, until the script says `QUIT` or
is at its end.  Grids and lists go into the job's output; what else there is to say is remarked.  A
request that the desk refuses is counted and the job goes on; a fault ends it.

`Job.step` carries one command out and `Job.run` all of them.  `Job.step_lt` says that each step
that lets the job go on shortens its script: it is what makes `run` total.
-/

namespace BoxOffice

/-- The request that a command makes, if any. -/
def Command.request? : Command → Option Request
  | .create id rows cols => some (.create id rows cols)
  | .reserve id seats => some (.reserve id seats)
  | .view id => some (.view id)
  | .list => some .list
  | _ => none

/-- After these there is nothing left to do. -/
def Command.isLast : Command → Bool
  | .quit | .finish => true
  | _ => false

/-- What a job says while it runs. -/
inductive Remark where
  /-- The job pauses for some milliseconds. -/
  | waiting (delay : UInt32)
  | help
  | failed (what : JobFailure)
  | invalid
  deriving DecidableEq, Repr

namespace Remark

def text : Remark → String
  | .waiting _ => "Waiting...\n"
  | .help => Command.helpText
  | .failed what => what.text ++ "\n"
  | .invalid => "Invalid command. See HELP for usage\n"

def isComplaint : Remark → Bool
  | .failed _ | .invalid => true
  | .waiting _ | .help => false

end Remark

structure JobSummary where
  /-- Requests taken to the desk. -/
  requests : Nat := 0
  /-- Requests that the desk refused. -/
  failures : Nat := 0
  /-- Lines that are no command. -/
  invalid : Nat := 0
  deriving DecidableEq, Repr

/-- All that a job leaves behind, the changes at the desk apart. -/
structure JobRecord where
  out : Sink := {}
  summary : JobSummary := {}
  remarks : Array Remark := #[]
  notes : Array Note := #[]

namespace JobRecord

def asked (r : JobRecord) : JobRecord :=
  { r with summary := { r.summary with requests := r.summary.requests + 1 } }

def failed (r : JobRecord) (what : JobFailure) : JobRecord :=
  { r with
    summary := { r.summary with failures := r.summary.failures + 1 }
    remarks := r.remarks.push (.failed what)
    notes := r.notes.push (.jobFailed what) }

def invalid (r : JobRecord) (lineNumber : Nat) : JobRecord :=
  { r with
    summary := { r.summary with invalid := r.summary.invalid + 1 }
    remarks := r.remarks.push .invalid
    notes := r.notes.push (.lineInvalid lineNumber) }

def remark (r : JobRecord) (what : Remark) : JobRecord :=
  { r with remarks := r.remarks.push what }

def write (text : String) : Attempt JobRecord Unit := fun r =>
  let (result, out) := r.out.writeAll (Text.Utf8.encode text)
  (result, { r with out })

/-- What becomes of the answer to a request. -/
def hear : (m : Request) → m.Result → Attempt JobRecord Unit
  | .create .., .done | .reserve .., .done | .quit, () => pure ()
  | .create .., .failed => .change (·.failed .create)
  | .reserve .., .failed => .change (·.failed .reserve)
  | .view _, .found rows cols markers => write (Listing.gridText rows cols markers)
  | .view _, .failed => .change (·.failed .view)
  | .list, .found ids => write (Listing.listText ids)
  | .list, .failed => .change (·.failed .list)

/-- What becomes of a command that makes no request. -/
def heed (r : JobRecord) (lineNumber : Nat) : Command → JobRecord
  | .wait delay _ => if delay = 0 then r else r.remark (.waiting delay)
  | .help => r.remark .help
  | .invalid => r.invalid lineNumber
  | _ => r

/-- What was said; complaints apart from the rest. -/
def said (r : JobRecord) (complaints : Bool) : String :=
  String.join ((r.remarks.toList.filter (·.isComplaint == complaints)).map Remark.text)

end JobRecord

structure Job (σ : Type) where
  /-- What its desk depends on. -/
  office : σ
  reader : ScriptReader
  record : JobRecord := {}

namespace Job

variable {σ : Type}

def ask (desk : Desk σ) (m : Request) (j : Job σ) : Except Fault Unit × Job σ :=
  match desk m j.office with
  | (.error fault, office) => (.error fault, { j with office, record := j.record.asked })
  | (.ok answer, office) =>
    let (result, record) := JobRecord.hear m answer j.record.asked
    (result, { j with office, record })

/-- Carries the next command out; the answer says whether the job goes on. -/
def step (desk : Desk σ) (j : Job σ) : Except Fault Bool × Job σ :=
  match j.reader.next with
  | (.error fault, reader) => (.error fault, { j with reader })
  | (.ok command, reader) =>
    let j := { j with reader }
    match command.request? with
    | some m =>
      let (result, j) := j.ask desk m
      (result.map fun _ => true, j)
    | none =>
      (.ok (!command.isLast), { j with record := j.record.heed reader.lineNumber command })

@[simp] theorem reader_ask (desk : Desk σ) (m : Request) (j : Job σ) :
    (j.ask desk m).2.reader = j.reader := by
  unfold ask
  split <;> rfl

/-- A step after which the job goes on shortens its script. -/
theorem step_lt {desk : Desk σ} {j k : Job σ} (h : j.step desk = (.ok true, k)) :
    k.reader.rest.length < j.reader.rest.length := by
  by_cases empty : j.reader.rest = []
  · have finished : j.reader.next = (.ok .finish, j.reader) := by simp [ScriptReader.next, empty]
    unfold step at h
    rw [finished] at h
    cases h
  · have shorter := ScriptReader.length_next_lt empty
    unfold step at h
    split at h
    · simp at h
    · rename_i command reader e
      rw [e] at shorter
      split at h
      · rename_i m _
        have k_eq := congrArg (·.2.reader) h
        simp only [reader_ask] at k_eq
        rw [← k_eq]
        exact shorter
      · obtain rfl := (Prod.mk.inj h).2
        exact shorter

/-- Carries out the commands that are left, and at the end flushes the output. -/
def run (desk : Desk σ) (j : Job σ) : Except Fault JobSummary × Job σ :=
  match _h : j.step desk with
  | (.error fault, j) => (.error fault, j)
  | (.ok true, k) => run desk k
  | (.ok false, j) =>
    let (result, out) := j.record.out.finish
    (result.map fun _ => j.record.summary, { j with record := { j.record with out } })
termination_by j.reader.rest.length
decreasing_by exact step_lt _h

end Job

end BoxOffice
