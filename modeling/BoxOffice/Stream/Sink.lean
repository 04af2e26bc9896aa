import BoxOffice.Attempt
/-!
# Sinks

What a stream will do with the bytes that are written to it.  One write is answered by the next entry
of a schedule: so many bytes are taken, or the write is interrupted, or it fails; after the schedule
everything is taken.  `send` and `writeAll` write all of some bytes, going on after short and
interrupted writes; they differ in how they report a failure and in that `send` also flushes.
-/

namespace BoxOffice

inductive WriteStep where
  /-- At most `most` bytes are taken. -/
  | takes (most : Nat)
  | interrupted
  | failed (why : String)
  deriving DecidableEq, Repr

/-- The receiving end of a stream. -/
structure Sink where
  /-- What the coming writes come to; after these everything is taken. -/
  writes : List WriteStep := []
  /-- What the coming flushes come to, `none` for success; after these all succeed. -/
  flushes : List (Option String) := []
  /-- The bytes taken by each delivery, the latest first. -/
  deliveries : List (List UInt8) := []
  /-- How often flushing succeeded. -/
  flushed : Nat := 0
  deriving DecidableEq, Repr, Inhabited

/-- All bytes taken so far. -/
def Sink.written (k : Sink) : List UInt8 := k.deliveries.reverse.flatten

/-- How far writing some bytes got. -/
structure Delivery where
  taken : List UInt8
  /-- `none` when all bytes were taken; a device that takes nothing has no words for it. -/
  stop : Option (Option String)
  /-- What is left of the schedule. -/
  writes : List WriteStep
  deriving DecidableEq, Repr

namespace Sink

/-- Writes the bytes until all are taken or a write takes none or fails. -/
def deliver (bytes : List UInt8) : List WriteStep → Delivery
  | [] => ⟨bytes, none, []⟩
  | step :: writes =>
    if bytes.isEmpty then ⟨[], none, step :: writes⟩
    else match step with
      | .takes 0 => ⟨[], some none, writes⟩
      | .takes (n + 1) =>
        let more := deliver (bytes.drop (n + 1)) writes
        { more with taken := bytes.take (n + 1) ++ more.taken }
      | .interrupted => deliver bytes writes
      | .failed why => ⟨[], some (some why), writes⟩

def after (k : Sink) (d : Delivery) : Sink :=
  { k with writes := d.writes, deliveries := d.taken :: k.deliveries }

/-- Flushes once: what the sink says, if it fails, and the sink afterwards. -/
def flush (k : Sink) : Option String × Sink :=
  match k.flushes with
  | some why :: flushes => (some why, { k with flushes })
  | none :: flushes => (none, { k with flushes, flushed := k.flushed + 1 })
  | [] => (none, { k with flushed := k.flushed + 1 })

def send (k : Sink) (bytes : List UInt8) : Except Fault Unit × Sink :=
  let d := deliver bytes k.writes
  let k := k.after d
  match d.stop with
  | some none => (.error (.transport .closedDuringWrite), k)
  | some (some why) => (.error (.transport (.writeFailed why)), k)
  | none =>
    match k.flush with
    | (some why, k) => (.error (.transport (.flushFailed why)), k)
    | (none, k) => (.ok (), k)

def writeAll (k : Sink) (bytes : List UInt8) : Except Fault Unit × Sink :=
  let d := deliver bytes k.writes
  let k := k.after d
  match d.stop with
  | some none => (.error (.io .nothingWritten), k)
  | some (some why) => (.error (.io (.stated why)), k)
  | none => (.ok (), k)

def finish (k : Sink) : Except Fault Unit × Sink :=
  match k.flush with
  | (some why, k) => (.error (.io (.stated why)), k)
  | (none, k) => (.ok (), k)

/-! ## Small laws -/

@[simp] theorem written_after (k : Sink) (d : Delivery) :
    (k.after d).written = k.written ++ d.taken := by
  simp [written, after]

@[simp] theorem written_flush (k : Sink) : k.flush.2.written = k.written := by
  unfold flush
  split <;> rfl

/-- What is taken is a front part of what is offered. -/
theorem taken_front (bytes : List UInt8) (writes : List WriteStep) :
    (deliver bytes writes).taken <+: bytes := by
  induction writes generalizing bytes with
  | nil => simp [deliver]
  | cons step writes ih =>
    unfold deliver
    split
    · simp
    · split
      · simp
      · rename_i n
        obtain ⟨t, ht⟩ := ih (bytes.drop (n + 1))
        exact ⟨t, by simp only [List.append_assoc, ht, List.take_append_drop]⟩
      · exact ih bytes
      · simp

end Sink

end BoxOffice
