import BoxOffice.Proofs.Stream.Delivery
import BoxOffice.Proofs.Stream.Sending
import BoxOffice.Session.Basic
import Mathlib.Logic.Relation
/-!
# The cycle of a request

A session is `Idle` between two requests.  From there the steps of one cycle lead back to an idle
session: a byte that is no opcode is dropped (`leads_dropped`), and what is `Heard` after an opcode is
answered once (`leads_cycle`) unless it is the last (`concludes_of_last`).

What a session does depends on its sink only where it sends a reply, and there only on whether that can
be sent.  So `Session.Leads` and `Session.Concludes` speak of a session without its sink: on every sink
that takes certain replies it gets from one state to another, or to its end.  `Session.Follows` says the
same of a sink that takes everything, with what has been written to it.

`run_of_moves` and `catchUp_of_moves` take steps back to what a session does by itself.
-/

namespace BoxOffice

/-- What followed an opcode: a request, or what was wrong with it. -/
structure Heard where
  opcode : Opcode
  body : Except Fault Request

namespace Heard

/-- The end of the session that it brings about, if any. -/
def ending? (h : Heard) : Option Ending :=
  match h.body with
  | .ok .quit => some .quit
  | .ok _ => none
  | .error fault => if fault.isTransport then some (.broken fault) else none

variable {op : Opcode}

theorem ending?_request {m : Request} : ending? ⟨op, .ok m⟩ = none ↔ m ≠ .quit := by
  cases m <;> simp [ending?]

theorem ending?_fault {fault : Fault} :
    ending? ⟨op, .error fault⟩ = none ↔ fault.isTransport = false := by
  simp [ending?]

theorem ending?_fault_some {fault : Fault} {ending : Ending} :
    ending? ⟨op, .error fault⟩ = some ending ↔ fault.isTransport = true ∧ .broken fault = ending := by
  simp [ending?]

variable [Platform]

/-- The reply that is earned. -/
def reply? (session : Int32) (order : ByteOrder) (store : Store) (h : Heard) : Option Reply :=
  match h.body with
  | .ok m => (answer session order store m).reply
  | .error fault => if fault.isTransport then none else refusal? order h.opcode

/-- The store afterwards. -/
def storeAfter (session : Int32) (order : ByteOrder) (store : Store) (h : Heard) : Store :=
  match h.body with
  | .ok m => (answer session order store m).store
  | .error _ => store

theorem reply?_fault {fault : Fault} (whole : fault.isTransport = false) (session : Int32)
    (order : ByteOrder) (store : Store) :
    reply? session order store ⟨op, .error fault⟩ = refusal? order op := by
  unfold reply?
  dsimp only
  rw [whole]
  rfl

/-- What ends the session earns no reply. -/
theorem reply?_of_ending {h : Heard} {ending : Ending} (ends : h.ending? = some ending)
    (session : Int32) (order : ByteOrder) (store : Store) : h.reply? session order store = none := by
  obtain ⟨op, body⟩ := h
  cases body with
  | ok m =>
    cases m with
    | create | reserve | view | list => cases ends
    | quit => rfl
  | error fault =>
    unfold reply?
    dsimp only
    rw [if_pos (ending?_fault_some.1 ends).1]

end Heard

namespace Session

/-- Between two requests there is nothing to carry out and nothing to send. -/
structure Idle (s : Session) : Prop where
  phase : s.phase = .awaitOpcode
  pending : s.pending = none
  reply : s.reply = none

variable [Platform]

/-- A step of a session that does not wait for its client and is not over after the step. -/
def Moves (s t : Session) : Prop :=
  ¬ (s.phase = .awaitOpcode ∧ s.source.isSpent = true) ∧ s.step = (none, t)

/-- After `s` the session has sent these replies, counted so many requests and become `t`. -/
structure Follows (s t : Session) (sent : List Reply) (asked : Nat) : Prop where
  id : t.id = s.id
  order : t.order = s.order
  maxSeats : t.maxSeats = s.maxSeats
  accepting : t.sink.Accepting
  written : t.sink.written = s.sink.written ++ sent.flatMap (·.bytes)
  requests : t.requests = s.requests + asked
  failures : t.failures = s.failures + sent.countP (!·.outcome.isDone)

/-- The session `t` is `s` after it has counted these replies and so many requests. -/
structure Tallies (s t : Session) (sent : List Reply) (asked : Nat) : Prop where
  id : t.id = s.id
  order : t.order = s.order
  maxSeats : t.maxSeats = s.maxSeats
  requests : t.requests = s.requests + asked
  failures : t.failures = s.failures + sent.countP (!·.outcome.isDone)

omit [Platform] in
theorem Tallies.trans {s t u : Session} {sent more : List Reply} {m n : Nat}
    (h : s.Tallies t sent m) (h' : t.Tallies u more n) : s.Tallies u (sent ++ more) (m + n) where
  id := h'.id.trans h.id
  order := h'.order.trans h.order
  maxSeats := h'.maxSeats.trans h.maxSeats
  requests := by rw [h'.requests, h.requests, Nat.add_assoc]
  failures := by rw [h'.failures, h.failures, List.countP_append, Nat.add_assoc]

/-- On a sink that takes these replies steps lead from `s` to `t`. -/
structure Leads (s t : Session) (sent : List Reply) (asked : Nat) : Prop
    extends s.Tallies t sent asked where
  moves : ∀ k k' : Sink, k.sendAll (sent.map (·.bytes)) = (.ok (), k') →
    Relation.ReflTransGen Moves { s with sink := k } { t with sink := k' }

/-- On a sink that takes these replies the session runs from `s` to its end, and is `t` then. -/
structure Concludes (s : Session) (ending : Ending) (t : Session) (sent : List Reply) (asked : Nat) :
    Prop extends s.Tallies t sent asked where
  runs : ∀ k k' : Sink, k.sendAll (sent.map (·.bytes)) = (.ok (), k') →
    ({ s with sink := k } : Session).run = (ending, { t with sink := k' })

/-! ## From steps to runs -/

theorem run_of_step {s t : Session} (h : s.step = (none, t)) : s.run = t.run := by
  rw [run]
  split
  · rename_i e
    rw [h] at e
    cases e
  · rename_i e
    rw [h] at e
    cases e
    rfl

theorem run_of_step_some {s t : Session} {ending : Ending} (h : s.step = (some ending, t)) :
    s.run = (ending, t) := by
  rw [run]
  split
  · rename_i e
    rw [h] at e
    cases e
    rfl
  · rename_i e
    rw [h] at e
    cases e

/-- Steps lead from `s` to the end of the session, which is then `t`. -/
def Ends (s : Session) (ending : Ending) (t : Session) : Prop :=
  ∃ u, Relation.ReflTransGen (fun a b => a.step = (none, b)) s u ∧ u.step = (some ending, t)

/-- Every session comes to an end, and to the one that it runs to. -/
theorem ends_run (s : Session) : s.Ends s.run.1 s.run.2 := by
  generalize hw : s.fuel = w
  induction w using Nat.strongRecOn generalizing s with
  | ind w ih =>
    subst hw
    rcases step : s.step with ⟨_ | ending, t⟩
    · obtain ⟨u, steps, last⟩ := ih _ (step_lt step) t rfl
      rw [run_of_step step]
      exact ⟨u, .head step steps, last⟩
    · rw [run_of_step_some step]
      exact ⟨s, .refl, step⟩

theorem run_of_moves {s t : Session} (h : Relation.ReflTransGen Moves s t) : s.run = t.run := by
  induction h with
  | refl => rfl
  | tail _ move ih => exact ih.trans (run_of_step move.2)

theorem catchUp_of_moves {s t : Session} (h : Relation.ReflTransGen Moves s t) :
    s.catchUp = t.catchUp := by
  induction h with
  | refl => rfl
  | tail _ move ih =>
    refine ih.trans ?_
    rw [catchUp, if_neg move.1]
    split
    · rename_i e
      rw [move.2] at e
      cases e
    · rename_i e
      rw [move.2] at e
      cases e
      rfl

theorem catchUp_of_spent {s : Session} (hs : s.Idle) (spent : s.source.isSpent = true) :
    s.catchUp = (none, s) := by
  rw [catchUp, if_pos ⟨hs.phase, spent⟩]

theorem Leads.trans {s t u : Session} {sent more : List Reply} {m n : Nat} (h : s.Leads t sent m)
    (h' : t.Leads u more n) : s.Leads u (sent ++ more) (m + n) := by
  refine ⟨h.toTallies.trans h'.toTallies, ?_⟩
  intro k k' all
  rw [List.map_append, Sink.sendAll_append_ok] at all
  obtain ⟨k₁, first, others⟩ := all
  exact Relation.ReflTransGen.trans (h.moves k k₁ first) (h'.moves k₁ k' others)

theorem Leads.concludes {s t u : Session} {sent more : List Reply} {m n : Nat} {ending : Ending}
    (h : s.Leads t sent m) (h' : t.Concludes ending u more n) :
    s.Concludes ending u (sent ++ more) (m + n) := by
  refine ⟨h.toTallies.trans h'.toTallies, ?_⟩
  intro k k' all
  rw [List.map_append, Sink.sendAll_append_ok] at all
  obtain ⟨k₁, first, others⟩ := all
  exact (run_of_moves (h.moves k k₁ first)).trans (h'.runs k₁ k' others)

omit [Platform] in
/-- On a sink that takes everything the replies are all that is written. -/
theorem Tallies.follows {s t : Session} {sent : List Reply} {asked : Nat}
    (h : s.Tallies t sent asked) (accepting : s.sink.Accepting) :
    ∃ k, s.sink.sendAll (sent.map (·.bytes)) = (.ok (), k) ∧
      s.Follows { t with sink := k } sent asked := by
  obtain ⟨k, all, taking⟩ := accepting.sendAll (sent.map (·.bytes))
  refine ⟨k, all, h.id, h.order, h.maxSeats, taking, ?_, h.requests, h.failures⟩
  rw [List.flatMap_def]
  exact Sink.written_of_sendAll all

/-! ## Single steps -/

variable {s : Session}

theorem step_of_await (phase : s.phase = .awaitOpcode) : s.step = s.awaitOpcode := by
  unfold step
  rw [phase]

theorem step_of_dispatch (phase : s.phase = .dispatch) : s.step = s.dispatch := by
  unfold step
  rw [phase]

theorem step_of_respond (phase : s.phase = .respond) : s.step = s.respond := by
  unfold step
  rw [phase]

theorem step_of_idle (hs : s.Idle) : s.step = s.awaitOpcode := step_of_await hs.phase

omit [Platform] in
theorem not_spent_of_byte? {b : UInt8} {u : Source}
    (hb : Source.byte? s.source = (.ok (some b), u)) :
    ¬ (s.phase = .awaitOpcode ∧ s.source.isSpent = true) := by
  rintro ⟨-, spent⟩
  rw [Source.byte?_of_isSpent spent] at hb
  cases hb

/-- The session with a request to carry out; `v` is left of its stream. -/
def received (s : Session) (m : Request) (op : Opcode) (v : Source) : Session :=
  { s with
    source := v
    requests := s.requests + 1
    pending := some m
    phase := .dispatch }.note (.requestReceived s.id op)

/-- The session with a malformed request to refuse; `v` is left of its stream. -/
def refusing (s : Session) (op : Opcode) (fault : Fault) (v : Source) : Session :=
  { s with
    source := v
    requests := s.requests + 1
    reply := refusal? s.order op
    phase := .respond }.note (.requestMalformed s.id op fault)

/-- The session with a request carried out, and its reply to be sent. -/
def answering (s : Session) (m : Request) : Session :=
  { s with
    pending := none
    store := (answer s.id s.order s.store m).store
    reply := (answer s.id s.order s.store m).reply
    phase := .respond
    notes := s.notes ++ (answer s.id s.order s.store m).notes }

/-- What comes of an opcode and of what follows it. -/
def hearing (s : Session) (op : Opcode) (v : Source) : Except Fault Request → Option Ending × Session
  | .ok m => (none, s.received m op v)
  | .error fault =>
    if fault.isTransport then
      (some (.broken fault), { s with source := v, requests := s.requests + 1 })
    else (none, s.refusing op fault v)

section

variable {b : UInt8} {u v : Source} (phase : s.phase = .awaitOpcode)
  (hb : Source.byte? s.source = (.ok (some b), u))
include phase hb

theorem step_of_fault {fault : Fault} (hop : Opcode.ofByte b = .error fault) :
    s.step = (none, { s with source := u }.note (.byteDropped s.id fault)) := by
  rw [step_of_await phase]
  unfold awaitOpcode
  rw [hb]
  dsimp only
  rw [hop]

theorem step_of_opcode {op : Opcode} {body : Except Fault Request} (hop : Opcode.ofByte b = .ok op)
    (hbody : Request.decode s.order s.maxSeats op u = (body, v)) :
    s.step = s.hearing op v body := by
  rw [step_of_await phase]
  unfold awaitOpcode
  rw [hb]
  dsimp only
  rw [hop]
  dsimp only
  rw [hbody]
  cases body <;> rfl

end

theorem dispatch_of_request {m : Request} (hm : s.pending = some m) (going : m ≠ .quit) :
    s.dispatch = (none, s.answering m) := by
  unfold dispatch
  rw [hm]
  cases m with
  | quit => exact absurd rfl going
  | create | reserve | view | list => rfl

/-! ## One cycle -/

variable {b : UInt8} {u v : Source}

omit [Platform] in
theorem Idle.with_sink (hs : s.Idle) (k : Sink) : ({ s with sink := k } : Session).Idle :=
  ⟨hs.phase, hs.pending, hs.reply⟩

/-- The session with what was heard carried out, and the reply that it earns to be sent. -/
def replying (s : Session) (h : Heard) (v : Source) : Session :=
  match h.body with
  | .ok m => (s.received m h.opcode v).answering m
  | .error fault => s.refusing h.opcode fault v

/-- The session with its reply sent, if there is one. -/
def replied (s : Session) : Session :=
  { s with
    reply := none
    failures := s.failures + s.reply.toList.countP (!·.outcome.isDone)
    phase := .awaitOpcode }

theorem leads_dropped (hs : s.Idle) {fault : Fault}
    (hb : Source.byte? s.source = (.ok (some b), u)) (hop : Opcode.ofByte b = .error fault) :
    s.Leads ({ s with source := u }.note (.byteDropped s.id fault)) [] 0 := by
  refine ⟨⟨rfl, rfl, rfl, rfl, rfl⟩, ?_⟩
  rintro k _ ⟨⟩
  exact .single ⟨not_spent_of_byte? hb, step_of_fault (hs.with_sink k).phase hb hop⟩

theorem leads_replying (hs : s.Idle) {h : Heard} (hb : Source.byte? s.source = (.ok (some b), u))
    (hop : Opcode.ofByte b = .ok h.opcode)
    (hbody : Request.decode s.order s.maxSeats h.opcode u = (h.body, v)) (going : h.ending? = none) :
    s.Leads (s.replying h v) [] 1 := by
  obtain ⟨op, body⟩ := h
  have busy (k : Sink) := not_spent_of_byte? (s := { s with sink := k }) hb
  cases body with
  | ok m =>
    refine ⟨⟨rfl, rfl, rfl, rfl, rfl⟩, ?_⟩
    rintro k _ ⟨⟩
    have first := step_of_opcode (hs.with_sink k).phase hb hop hbody
    have second := dispatch_of_request (s := ({ s with sink := k } : Session).received m op v) rfl
      (Heard.ending?_request.1 going)
    exact .head ⟨busy k, first⟩
      (.single ⟨fun h => Phase.noConfusion h.1, (step_of_dispatch rfl).trans second⟩)
  | error fault =>
    refine ⟨⟨rfl, rfl, rfl, rfl, rfl⟩, ?_⟩
    rintro k _ ⟨⟩
    have first := step_of_opcode (hs.with_sink k).phase hb hop hbody
    dsimp only [hearing] at first
    rw [Heard.ending?_fault.1 going] at first
    exact .single ⟨busy k, first⟩

theorem reply_replying {h : Heard} (going : h.ending? = none) (s : Session) (v : Source) :
    (s.replying h v).reply = h.reply? s.id s.order s.store := by
  obtain ⟨op, body⟩ := h
  cases body with
  | ok m => rfl
  | error fault =>
    exact (Heard.reply?_fault (Heard.ending?_fault.1 going) s.id s.order s.store).symm

theorem store_replying (s : Session) (h : Heard) (v : Source) :
    (s.replying h v).store = h.storeAfter s.id s.order s.store := by
  obtain ⟨op, body⟩ := h
  cases body with
  | ok | error => rfl

theorem source_replying (s : Session) (h : Heard) (v : Source) : (s.replying h v).source = v := by
  unfold replying
  split <;> rfl

theorem phase_replying (s : Session) (h : Heard) (v : Source) :
    (s.replying h v).phase = .respond := by
  unfold replying
  split <;> rfl

theorem pending_replying (hs : s.Idle) (h : Heard) (v : Source) :
    (s.replying h v).pending = none := by
  unfold replying
  split
  · rfl
  · exact hs.pending

/-- What comes of a reply is what comes of sending it. -/
theorem step_of_reply {r : Reply} (phase : s.phase = .respond) (reply : s.reply = some r) :
    s.step = match s.sink.send r.bytes with
      | (.error fault, sink) => (some (.broken fault), { s.replied with phase := .respond, sink })
      | (.ok (), sink) => (none, { s.replied with sink }) := by
  have counted : (if r.outcome.isDone then s.failures else s.failures + 1) =
      s.failures + [r].countP (!·.outcome.isDone) := by
    rw [List.countP_singleton]
    by_cases good : r.outcome.isDone = true
    · simp [good]
    · simp [good]
  rw [step_of_respond phase]
  unfold respond replied
  rw [reply]
  dsimp only
  rw [counted, Option.toList_some, phase]
  rcases s.sink.send r.bytes with ⟨fault | ⟨⟩, k⟩
  · rfl
  · rfl

theorem step_of_no_reply (phase : s.phase = .respond) (reply : s.reply = none) :
    s.step = (none, s.replied) := by
  rw [step_of_respond phase]
  unfold respond replied
  rw [reply]
  rfl

theorem leads_replied (phase : s.phase = .respond) : s.Leads s.replied s.reply.toList 0 := by
  refine ⟨⟨rfl, rfl, rfl, rfl, rfl⟩, ?_⟩
  intro k k' all
  have busy : ¬ (s.phase = .awaitOpcode ∧ s.source.isSpent = true) := by
    rw [phase]
    exact fun h => Phase.noConfusion h.1
  rcases Option.eq_none_or_eq_some s.reply with reply | ⟨r, reply⟩
  · rw [reply] at all
    cases all
    exact .single ⟨busy, step_of_no_reply (s := { s with sink := k }) phase reply⟩
  · rw [reply] at all
    have sent : k.send r.bytes = (.ok (), k') := (k.sendAll_singleton r.bytes).symm.trans all
    refine .single ⟨busy, (step_of_reply (s := { s with sink := k }) phase reply).trans ?_⟩
    dsimp only
    rw [sent]
    rfl

/-- One cycle, and the session waits for the next opcode. -/
theorem leads_cycle (hs : s.Idle) {h : Heard} (hb : Source.byte? s.source = (.ok (some b), u))
    (hop : Opcode.ofByte b = .ok h.opcode)
    (hbody : Request.decode s.order s.maxSeats h.opcode u = (h.body, v)) (going : h.ending? = none) :
    s.Leads (s.replying h v).replied (h.reply? s.id s.order s.store).toList 1 ∧
      (s.replying h v).replied.Idle := by
  have first := leads_replying hs hb hop hbody going
  have second := leads_replied (phase_replying s h v)
  rw [reply_replying going] at second
  exact ⟨first.trans second, rfl, pending_replying hs h v, rfl⟩

/-- What is heard is answered, with the one reply that it earns. -/
theorem moves_heard (hs : s.Idle) (accepting : s.sink.Accepting) {h : Heard}
    (hb : Source.byte? s.source = (.ok (some b), u)) (hop : Opcode.ofByte b = .ok h.opcode)
    (hbody : Request.decode s.order s.maxSeats h.opcode u = (h.body, v)) (going : h.ending? = none) :
    ∃ t, Relation.ReflTransGen Moves s t ∧ t.Idle ∧
      (t.source = v ∧ t.store = h.storeAfter s.id s.order s.store) ∧
      s.Follows t (h.reply? s.id s.order s.store).toList 1 := by
  obtain ⟨leads, idle⟩ := leads_cycle hs hb hop hbody going
  obtain ⟨k, all, follows⟩ := leads.toTallies.follows accepting
  exact ⟨_, leads.moves s.sink k all, idle.with_sink k,
    ⟨source_replying s h v, store_replying s h v⟩, follows⟩

/-! ## The end -/

theorem concludes_of_closed (hs : s.Idle) (hb : Source.byte? s.source = (.ok none, u)) :
    s.Concludes .peerClosed { s with source := u } [] 0 := by
  refine ⟨⟨rfl, rfl, rfl, rfl, rfl⟩, ?_⟩
  rintro k _ ⟨⟩
  refine run_of_step_some ?_
  rw [step_of_idle (hs.with_sink k)]
  unfold awaitOpcode
  rw [hb]

theorem concludes_of_failed (hs : s.Idle) {fault : Fault}
    (hb : Source.byte? s.source = (.error fault, u)) :
    s.Concludes (.broken fault) { s with source := u } [] 0 := by
  refine ⟨⟨rfl, rfl, rfl, rfl, rfl⟩, ?_⟩
  rintro k _ ⟨⟩
  refine run_of_step_some ?_
  rw [step_of_idle (hs.with_sink k)]
  unfold awaitOpcode
  rw [hb]

/-- What is heard last brings the session to its end. -/
theorem concludes_of_last (hs : s.Idle) {h : Heard} {ending : Ending}
    (hb : Source.byte? s.source = (.ok (some b), u)) (hop : Opcode.ofByte b = .ok h.opcode)
    (hbody : Request.decode s.order s.maxSeats h.opcode u = (h.body, v))
    (ends : h.ending? = some ending) :
    ∃ t, s.Concludes ending t (h.reply? s.id s.order s.store).toList 1 ∧ t.source = v ∧
      t.store = h.storeAfter s.id s.order s.store := by
  rw [Heard.reply?_of_ending ends s.id s.order s.store]
  obtain ⟨op, body⟩ := h
  cases body with
  | ok m =>
    cases m with
    | create | reserve | view | list => cases ends
    | quit =>
      cases ends
      refine ⟨{ s.received .quit op v with pending := none }, ⟨⟨rfl, rfl, rfl, rfl, rfl⟩, ?_⟩, rfl,
        rfl⟩
      rintro k _ ⟨⟩
      have first := step_of_opcode (hs.with_sink k).phase hb hop hbody
      exact (run_of_step first).trans (run_of_step_some rfl)
  | error fault =>
    obtain ⟨broken, rfl⟩ := Heard.ending?_fault_some.1 ends
    refine ⟨{ s with source := v, requests := s.requests + 1 }, ⟨⟨rfl, rfl, rfl, rfl, rfl⟩, ?_⟩, rfl,
      rfl⟩
    rintro k _ ⟨⟩
    have step := step_of_opcode (hs.with_sink k).phase hb hop hbody
    dsimp only [hearing] at step
    rw [if_pos broken] at step
    exact run_of_step_some step

end Session

end BoxOffice
