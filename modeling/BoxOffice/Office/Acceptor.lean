import BoxOffice.Journal
import BoxOffice.Wire.Setup
/-!
# The acceptor

Clients announce themselves on one stream that they share.  `Visit.next` reads what comes next on it:
an announcement, or something that is passed over.  `Acceptor.receive` goes on until the stream is
closed or breaks, and lists the clients that were accepted, in the order in which they came.
-/

namespace BoxOffice

variable [Platform]

/-- What came to the acceptor. -/
inductive Visit where
  /-- The stream is closed. -/
  | closed
  | client (m : Setup)
  /-- An announcement whose names cannot be read. -/
  | malformed (fault : Fault)
  /-- A request, which should have gone to a session. -/
  | stray (op : Opcode)
  /-- A byte that begins nothing. -/
  | noise (b : UInt8)
  deriving DecidableEq, Repr

namespace Visit

def notes : Visit → List Note
  | .malformed fault => [.setupMalformed fault]
  | .stray op => [.opcodeIgnored op]
  | .closed | .client _ | .noise _ => []

/-- An announcement whose opcode has been read. -/
def announced (order : ByteOrder) : Attempt Source Visit := fun s =>
  match Setup.decode order s with
  | (.ok m, rest) => (.ok (.client m), rest)
  | (.error fault, rest) =>
    if fault.isTransport then (.error fault, rest) else (.ok (.malformed fault), rest)

def begun (order : ByteOrder) (b : UInt8) : Attempt Source Visit :=
  match Opcode.ofByte? b with
  | some .setup => announced order
  | some op => pure (.stray op)
  | none => pure (.noise b)

def next (order : ByteOrder) : Attempt Source Visit := do
  match ← Source.byte? with
  | none => return .closed
  | some b => begun order b

open Source in
theorem lightens_begun (order : ByteOrder) (b : UInt8) : Lightens (begun order b) := by
  unfold begun
  split
  · intro s
    have h : Lightens (Setup.decode order) := lightens_fields _ _ _
    have := h s
    simp only [Attempt.run, announced] at this ⊢
    split
    · simp_all
    · split <;> simp_all
  · exact .pure _
  · exact .pure _

/-- All that comes before the stream is closed makes it lighter. -/
theorem weight_lt_of_next {order : ByteOrder} {s t : Source} {v : Visit}
    (h : next order s = (.ok v, t)) (open' : v ≠ .closed) : t.weight < s.weight := by
  have unfolded : next order s = match Source.byte? s with
      | (.ok none, s) => (.ok .closed, s)
      | (.ok (some b), s) => begun order b s
      | (.error fault, s) => (.error fault, s) := by
    show (next order).run s = _
    rw [next, Attempt.run_bind]
    simp only [Attempt.run]
    split <;> (try split) <;> simp_all
    rfl
  rw [unfolded] at h
  split at h
  · simp_all
  · rename_i b rest e
    have lighter := Source.weight_lt_of_byte? e
    have := lightens_begun order b rest
    simp only [Attempt.run, h] at this
    omega
  · simp at h

end Visit

structure Reception where
  /-- Those who announced themselves well, in the order in which they came. -/
  clients : List Setup
  notes : List Note
  /-- Whether the stream was closed between two visits. -/
  ending : Except Fault Unit
  rest : Source

/-- Receives all who come until the stream is closed or breaks. -/
def Acceptor.receive (order : ByteOrder) (s : Source) : Reception :=
  match _h : Visit.next order s with
  | (.error fault, rest) => { clients := [], notes := [], ending := .error fault, rest }
  | (.ok v, rest) =>
    if _open : v = .closed then { clients := [], notes := [], ending := .ok (), rest }
    else
      let more := Acceptor.receive order rest
      { more with
        clients := match v with
          | .client m => m :: more.clients
          | _ => more.clients
        notes := v.notes ++ more.notes }
termination_by s.weight
decreasing_by exact Visit.weight_lt_of_next _h _open

/-- The least number of bytes that are missing before those that came make a whole visit: an
announcement with its two names, or one byte of anything else. -/
def Acceptor.missing : List UInt8 → Nat
  | [] => 1
  | b :: bytes => if b = Opcode.setup.byte then 2 * nameWidth - bytes.length else 0

end BoxOffice
