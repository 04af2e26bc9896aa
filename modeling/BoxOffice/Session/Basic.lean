import BoxOffice.Session.Answer
import BoxOffice.Stream.Sink
/-!
# Sessions

A session reads a request, carries it out and sends its reply before it reads the next one.  Its
state is a `Session`; `Session.step` goes one phase further and `Session.run` goes on until the
session ends: because the client quits, because it closes its stream between two requests, or because
a stream breaks.

`Session.step_lt` says that each step that does not end the session brings it nearer to its end: it is
what makes `run` total.
-/

namespace BoxOffice

variable [Platform]

/-- Where a session is in the cycle of a request. -/
inductive Phase where
  | awaitOpcode
  | dispatch
  | respond
  deriving DecidableEq, Repr

def Phase.name : Phase → String
  | .awaitOpcode => "AwaitOpcode"
  | .dispatch => "Dispatch"
  | .respond => "Respond"

inductive Ending where
  | quit
  | peerClosed
  | broken (fault : Fault)
  deriving DecidableEq, Repr

structure Session where
  id : Int32
  order : ByteOrder
  maxSeats : UInt64
  store : Store
  source : Source
  sink : Sink := {}
  phase : Phase := .awaitOpcode
  /-- The request that is to be carried out. -/
  pending : Option Request := none
  /-- The reply that is to be sent. -/
  reply : Option Reply := none
  /-- How many opcodes were read. -/
  requests : Nat := 0
  /-- How many of the replies say that the request failed. -/
  failures : Nat := 0
  notes : Array Note := #[]

namespace Session

def note (s : Session) (n : Note) : Session := { s with notes := s.notes.push n }

def awaitOpcode (s : Session) : Option Ending × Session :=
  match Source.byte? s.source with
  | (.error fault, source) => (some (.broken fault), { s with source })
  | (.ok none, source) => (some .peerClosed, { s with source })
  | (.ok (some b), source) =>
    let s := { s with source }
    match Opcode.ofByte b with
    | .error fault => (none, s.note (.byteDropped s.id fault))
    | .ok op =>
      let s := { s with requests := s.requests + 1 }
      match Request.decode s.order s.maxSeats op s.source with
      | (.ok m, source) =>
        let s := { s with source, pending := some m, phase := .dispatch }
        (none, s.note (.requestReceived s.id op))
      | (.error fault, source) =>
        let s := { s with source }
        if fault.isTransport then (some (.broken fault), s)
        else
          let s := { s with reply := refusal? s.order op, phase := .respond }
          (none, s.note (.requestMalformed s.id op fault))

def dispatch (s : Session) : Option Ending × Session :=
  match s.pending with
  | some .quit => (some .quit, { s with pending := none })
  | some m =>
    let a := answer s.id s.order s.store m
    (none, { s with
      pending := none
      store := a.store
      reply := a.reply
      phase := .respond
      notes := s.notes ++ a.notes })
  | none => (none, { s with phase := .awaitOpcode })

def respond (s : Session) : Option Ending × Session :=
  match s.reply with
  | none => (none, { s with phase := .awaitOpcode })
  | some reply =>
    let failures := if reply.outcome.isDone then s.failures else s.failures + 1
    match s.sink.send reply.bytes with
    | (.error fault, sink) => (some (.broken fault), { s with reply := none, failures, sink })
    | (.ok _, sink) =>
      (none, { s with reply := none, failures, sink, phase := .awaitOpcode })

/-- Goes one phase further; the session is over when this gives an ending. -/
def step (s : Session) : Option Ending × Session :=
  match s.phase with
  | .awaitOpcode => s.awaitOpcode
  | .dispatch => s.dispatch
  | .respond => s.respond

/-- How far a phase is from the next opcode. -/
def rank : Phase → Nat
  | .awaitOpcode => 0
  | .respond => 1
  | .dispatch => 2

/-- A bound on the steps that a session can still take. -/
def fuel (s : Session) : Nat := 3 * s.source.weight + rank s.phase

/-! ## A session comes to its end -/

theorem awaitOpcode_lt {s t : Session} (hs : s.phase = .awaitOpcode)
    (h : s.awaitOpcode = (none, t)) : t.fuel < s.fuel := by
  unfold awaitOpcode at h
  split at h
  · simp at h
  · simp at h
  · rename_i b source e
    have lighter := Source.weight_lt_of_byte? e
    dsimp only at h
    split at h
    · obtain rfl := (Prod.mk.inj h).2
      simp only [note, fuel, hs, rank]
      omega
    · rename_i op _
      have lightens := Request.lightens_decode s.order s.maxSeats op source
      simp only [Attempt.run] at lightens
      split at h
      · rename_i m rest e'
        simp only [e'] at lightens
        obtain rfl := (Prod.mk.inj h).2
        simp only [note, fuel, hs, rank]
        omega
      · rename_i fault rest e'
        simp only [e'] at lightens
        split at h
        · simp at h
        · obtain rfl := (Prod.mk.inj h).2
          simp only [note, fuel, hs, rank]
          omega

/-- A step that does not end the session brings it nearer to its end. -/
theorem step_lt {s t : Session} (h : s.step = (none, t)) : t.fuel < s.fuel := by
  unfold step at h
  split at h
  · rename_i hs
    exact awaitOpcode_lt hs h
  · rename_i hs
    unfold dispatch at h
    split at h
    · simp at h
    · obtain rfl := (Prod.mk.inj h).2
      simp [fuel, hs, rank]
    · obtain rfl := (Prod.mk.inj h).2
      simp [fuel, hs, rank]
  · rename_i hs
    unfold respond at h
    split at h
    · obtain rfl := (Prod.mk.inj h).2
      simp [fuel, hs, rank]
    · dsimp only at h
      split at h
      · simp at h
      · obtain rfl := (Prod.mk.inj h).2
        simp [fuel, hs, rank]

def run (s : Session) : Ending × Session :=
  match _h : s.step with
  | (some ending, s) => (ending, s)
  | (none, t) => run t
termination_by s.fuel
decreasing_by exact step_lt _h

def closingNote (session : Int32) : Ending → Note
  | .quit => .clientQuit session
  | .peerClosed => .clientClosed session
  | .broken fault => .sessionBroken session fault

/-- Serves a session from its first note to its last. -/
def serve (s : Session) : Ending × Session :=
  let (ending, t) := (s.note (.sessionStarted s.id)).run
  (ending, t.note (closingNote t.id ending))

/-- Goes on until the session is over or has to wait for its client's next request. -/
def catchUp (s : Session) : Option Ending × Session :=
  if s.phase = .awaitOpcode ∧ s.source.isSpent then (none, s)
  else
    match _h : s.step with
    | (some ending, t) => (some ending, t.note (closingNote t.id ending))
    | (none, t) => catchUp t
termination_by s.fuel
decreasing_by exact step_lt _h

end Session

end BoxOffice
