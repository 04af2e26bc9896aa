import BoxOffice.Proofs.Session.Cycle
import BoxOffice.Proofs.Wire.Request
/-!
# What a session does, act by act

Each step of a session that does not end it is one `Act` (`Session.step_eq_none_iff`), and what a
session has done is a list of acts (`Session.Course`).  A session that begins idle does whole cycles
one after the other, and what it has done of the next one says what it holds (`Session.Within`): a
request that it has to carry out, or the reply that it has to send.

Main statement: `Session.course_cycles`.
-/

namespace BoxOffice

/-- One thing that a session does. -/
inductive Act where
  /-- It throws away a byte that begins nothing. -/
  | drop (b : UInt8)
  /-- It reads an opcode and what follows it. -/
  | hear (h : Heard)
  /-- It carries a request out, and this is what it earns. -/
  | carryOut (m : Request) (reply : Option Reply)
  /-- It has nothing to carry out. -/
  | carryNothing
  | send (r : Reply)
  /-- It has nothing to send. -/
  | sendNothing

namespace Act

/-- The store afterwards. -/
def storeAfter [Platform] (session : Int32) (order : ByteOrder) (store : Store) : Act → Store
  | carryOut m _ => (answer session order store m).store
  | drop _ | hear _ | carryNothing | send _ | sendNothing => store

/-- The reply that is sent. -/
def sent? : Act → Option Reply
  | send r => some r
  | drop _ | hear _ | carryOut .. | carryNothing | sendNothing => none

/-- There is something to carry out whenever the session sets about it, and that is not to quit. -/
def Meant (act : Act) : Prop := act ≠ carryNothing ∧ ∀ reply, act ≠ carryOut .quit reply

end Act

/-- What is done from one opcode to the next. -/
inductive Cycle [Platform] (order : ByteOrder) : List Act → Prop
  /-- The byte is no opcode. -/
  | dropped (b : UInt8) : Cycle order [.drop b]
  /-- A request is carried out and answered. -/
  | served {m : Request} (r : Reply) (going : m ≠ .quit) :
      Cycle order [.hear ⟨m.opcode, .ok m⟩, .carryOut m (some r), .send r]
  /-- What follows the opcode is malformed, and the reply says so. -/
  | refused {op : Opcode} {r : Reply} (fault : Fault) (refusal : refusal? order op = some r) :
      Cycle order [.hear ⟨op, .error fault⟩, .send r]
  /-- A session is no place to set one up. -/
  | passedOver (fault : Fault) : Cycle order [.hear ⟨.setup, .error fault⟩, .sendNothing]

theorem Cycle.meant [Platform] {order : ByteOrder} {acts : List Act} (h : Cycle order acts) :
    ∀ act ∈ acts, act.Meant := by
  cases h with
  | dropped | refused | passedOver => simp [Act.Meant]
  | served r going => simp [Act.Meant, going]

namespace Session

section

variable [Platform] {s t u : Session} {act : Act} {acts begun : List Act} {order : ByteOrder}

/-! ## Acts -/

/-- The session `s` does this and is `t` then. -/
inductive Does : Session → Act → Session → Prop
  | drop {s : Session} {b : UInt8} {fault : Fault} {v : Source} (phase : s.phase = .awaitOpcode)
      (hb : Source.byte? s.source = (.ok (some b), v)) (hop : Opcode.ofByte b = .error fault) :
      Does s (.drop b) ({ s with source := v }.note (.byteDropped s.id fault))
  | receive {s : Session} {b : UInt8} {op : Opcode} {m : Request} {v w : Source}
      (phase : s.phase = .awaitOpcode) (hb : Source.byte? s.source = (.ok (some b), v))
      (hop : Opcode.ofByte b = .ok op)
      (hbody : Request.decode s.order s.maxSeats op v = (.ok m, w)) :
      Does s (.hear ⟨op, .ok m⟩) (s.received m op w)
  | refuse {s : Session} {b : UInt8} {op : Opcode} {fault : Fault} {v w : Source}
      (phase : s.phase = .awaitOpcode) (hb : Source.byte? s.source = (.ok (some b), v))
      (hop : Opcode.ofByte b = .ok op)
      (hbody : Request.decode s.order s.maxSeats op v = (.error fault, w))
      (whole : fault.isTransport = false) :
      Does s (.hear ⟨op, .error fault⟩) (s.refusing op fault w)
  | carryOut {s : Session} {m : Request} (phase : s.phase = .dispatch)
      (pending : s.pending = some m) (going : m ≠ .quit) :
      Does s (.carryOut m (answer s.id s.order s.store m).reply) (s.answering m)
  | carryNothing {s : Session} (phase : s.phase = .dispatch) (pending : s.pending = none) :
      Does s .carryNothing { s with phase := .awaitOpcode }
  | send {s : Session} {r : Reply} {k : Sink} (phase : s.phase = .respond)
      (reply : s.reply = some r) (sent : s.sink.send r.bytes = (.ok (), k)) :
      Does s (.send r) { s.replied with sink := k }
  | sendNothing {s : Session} (phase : s.phase = .respond) (reply : s.reply = none) :
      Does s .sendNothing s.replied

theorem Does.step (h : s.Does act t) : s.step = (none, t) := by
  cases h with
  | drop phase hb hop => exact step_of_fault phase hb hop
  | receive phase hb hop hbody => exact step_of_opcode phase hb hop hbody
  | refuse phase hb hop hbody whole =>
    rw [step_of_opcode phase hb hop hbody, hearing, whole]
    rfl
  | carryOut phase pending going =>
    rw [step_of_dispatch phase]
    exact dispatch_of_request pending going
  | carryNothing phase pending =>
    rw [step_of_dispatch phase]
    unfold dispatch
    rw [pending]
  | send phase reply sent => rw [step_of_reply phase reply, sent]
  | sendNothing phase reply => exact step_of_no_reply phase reply

/-- The session stops at a request to quit, which is not carried out. -/
theorem step_of_quit (phase : s.phase = .dispatch) (pending : s.pending = some .quit) :
    s.step = (some .quit, { s with pending := none }) := by
  rw [step_of_dispatch phase]
  unfold dispatch
  rw [pending]

/-- What a session can do in its state is what its step does. -/
theorem Does.exists_of_step (does : s.Does act u) (h : s.step = (none, t)) :
    ∃ act, s.Does act t := by
  have same : (none, u) = (none, t) := does.step.symm.trans h
  cases same
  exact ⟨act, does⟩

theorem exists_does_of_await (phase : s.phase = .awaitOpcode) (h : s.step = (none, t)) :
    ∃ act, s.Does act t := by
  rcases hb : Source.byte? s.source with ⟨fault | none | b, v⟩
  · rw [step_of_await phase, awaitOpcode, hb] at h
    cases h
  · rw [step_of_await phase, awaitOpcode, hb] at h
    cases h
  · cases hop : Opcode.ofByte b with
    | error fault => exact (Does.drop phase hb hop).exists_of_step h
    | ok op =>
      rcases hbody : Request.decode s.order s.maxSeats op v with ⟨fault | m, w⟩
      · cases whole : fault.isTransport with
        | true =>
          rw [step_of_opcode phase hb hop hbody, hearing, whole] at h
          cases h
        | false => exact (Does.refuse phase hb hop hbody whole).exists_of_step h
      · exact (Does.receive phase hb hop hbody).exists_of_step h

theorem exists_does (h : s.step = (none, t)) : ∃ act, s.Does act t := by
  cases phase : s.phase with
  | awaitOpcode => exact exists_does_of_await phase h
  | dispatch =>
    cases pending : s.pending with
    | none => exact (Does.carryNothing phase pending).exists_of_step h
    | some m =>
      have going : m ≠ .quit := by
        rintro rfl
        rw [step_of_quit phase pending] at h
        cases h
      exact (Does.carryOut phase pending going).exists_of_step h
  | respond =>
    cases reply : s.reply with
    | none => exact (Does.sendNothing phase reply).exists_of_step h
    | some r =>
      rcases sent : s.sink.send r.bytes with ⟨fault | ⟨⟩, k⟩
      · rw [step_of_reply phase reply, sent] at h
        cases h
      · exact (Does.send phase reply sent).exists_of_step h

/-- A step that does not end the session is one of its acts, and nothing else is. -/
theorem step_eq_none_iff : s.step = (none, t) ↔ ∃ act, s.Does act t :=
  ⟨exists_does, fun ⟨_, does⟩ => does.step⟩

/-! ## Courses -/

/-- The session `s` does these acts in order and is `t` then. -/
inductive Course (s : Session) : List Act → Session → Prop
  | start : Course s [] s
  | act {acts : List Act} {act : Act} {t u : Session} (course : Course s acts t)
      (does : t.Does act u) : Course s (acts ++ [act]) u

theorem reflTransGen_iff_course :
    Relation.ReflTransGen (fun a b => a.step = (none, b)) s t ↔ ∃ acts, s.Course acts t := by
  constructor
  · intro steps
    induction steps with
    | refl => exact ⟨[], .start⟩
    | tail _ step ih =>
      obtain ⟨acts, course⟩ := ih
      obtain ⟨act, does⟩ := step_eq_none_iff.1 step
      exact ⟨acts ++ [act], .act course does⟩
  · rintro ⟨acts, course⟩
    induction course with
    | start => exact .refl
    | act _ does ih => exact .tail ih does.step

theorem Does.id_eq (h : s.Does act t) : t.id = s.id := by
  cases h <;> rfl

theorem Does.order_eq (h : s.Does act t) : t.order = s.order := by
  cases h <;> rfl

theorem Does.store_eq (h : s.Does act t) : t.store = act.storeAfter s.id s.order s.store := by
  cases h <;> rfl

theorem Does.sendAll (h : s.Does act t) :
    s.sink.sendAll (act.sent?.toList.map (·.bytes)) = (.ok (), t.sink) := by
  cases h with
  | drop | receive | refuse | carryOut | carryNothing | sendNothing => rfl
  | send phase reply sent => exact (s.sink.sendAll_singleton _).trans sent

namespace Course

theorem id_eq (h : s.Course acts t) : t.id = s.id := by
  induction h with
  | start => rfl
  | act _ does ih => exact does.id_eq.trans ih

theorem order_eq (h : s.Course acts t) : t.order = s.order := by
  induction h with
  | start => rfl
  | act _ does ih => exact does.order_eq.trans ih

/-- The store is what the requests that were carried out have made of it. -/
theorem store_eq (h : s.Course acts t) :
    t.store = acts.foldl (Act.storeAfter s.id s.order) s.store := by
  induction h with
  | start => rfl
  | act course does ih =>
    rw [List.foldl_append, ← ih, does.store_eq, course.id_eq, course.order_eq]
    rfl

/-- The replies were sent one after the other. -/
theorem sendAll (h : s.Course acts t) :
    s.sink.sendAll ((acts.filterMap Act.sent?).map (·.bytes)) = (.ok (), t.sink) := by
  induction h with
  | start => rfl
  | act _ does ih =>
    rw [List.filterMap_append, List.map_append, Sink.sendAll_append_ok]
    exact ⟨_, ih, does.sendAll⟩

end Course

/-! ## Where a session is in its cycle -/

/-- The session has done this of the cycle that it is in, and holds what has come of it. -/
inductive Within (s : Session) : List Act → Prop
  | idle (hs : s.Idle) : Within s []
  | heard {m : Request} (phase : s.phase = .dispatch) (pending : s.pending = some m)
      (reply : s.reply = none) : Within s [.hear ⟨m.opcode, .ok m⟩]
  | carriedOut {m : Request} {r : Reply} (phase : s.phase = .respond) (pending : s.pending = none)
      (reply : s.reply = some r) (going : m ≠ .quit) :
      Within s [.hear ⟨m.opcode, .ok m⟩, .carryOut m (some r)]
  | refused {op : Opcode} {fault : Fault} {r : Reply} (phase : s.phase = .respond)
      (pending : s.pending = none) (reply : s.reply = some r)
      (refusal : refusal? s.order op = some r) : Within s [.hear ⟨op, .error fault⟩]
  | passedOver {fault : Fault} (phase : s.phase = .respond) (pending : s.pending = none)
      (reply : s.reply = none) : Within s [.hear ⟨.setup, .error fault⟩]

/-- Every request but the last of a session earns a reply. -/
theorem exists_reply_answer {m : Request} (going : m ≠ .quit) (session : Int32) (order : ByteOrder)
    (store : Store) : ∃ r, (answer session order store m).reply = some r := by
  cases m with
  | quit => exact absurd rfl going
  | create | reserve | view | list => exact ⟨_, rfl⟩

/-- Nothing follows the opcode to quit that could be malformed. -/
theorem refusal?_of_decode {maxSeats : UInt64} {op : Opcode} {v w : Source} {fault : Fault}
    (h : Request.decode order maxSeats op v = (.error fault, w))
    (refusal : refusal? order op = none) : op = .setup := by
  cases op with
  | create | reserve | view | list => cases refusal
  | setup => rfl
  | quit => cases h

/-- A session that has come to its reply sends it, if there is one, and is idle then. -/
theorem Does.of_respond (does : t.Does act u) (phase : t.phase = .respond)
    (pending : t.pending = none) : u.Idle ∧ act = t.reply.elim .sendNothing .send := by
  cases does with
  | send _ reply sent =>
    rw [reply]
    exact ⟨⟨rfl, pending, rfl⟩, rfl⟩
  | sendNothing _ reply =>
    rw [reply]
    exact ⟨⟨rfl, pending, rfl⟩, rfl⟩
  | drop phase' | receive phase' | refuse phase' | carryOut phase' | carryNothing phase' =>
    cases phase.symm.trans phase'

/-- Where one act leads: the cycle is complete, or it goes on. -/
theorem Within.does (h : t.Within begun) (does : t.Does act u) :
    (u.Idle ∧ Cycle t.order (begun ++ [act])) ∨ u.Within (begun ++ [act]) := by
  cases h with
  | idle hs =>
    cases does with
    | drop => exact .inl ⟨⟨hs.phase, hs.pending, hs.reply⟩, .dropped _⟩
    | receive phase hb hop hbody =>
      rw [← Request.opcode_of_decode hbody]
      exact .inr (.heard rfl rfl hs.reply)
    | refuse phase hb hop hbody whole =>
      -- only what follows a setup is refused without a reply
      cases refusal : refusal? t.order _ with
      | none =>
        cases refusal?_of_decode hbody refusal
        exact .inr (.passedOver rfl hs.pending rfl)
      | some r => exact .inr (.refused rfl hs.pending refusal refusal)
    | carryOut phase | carryNothing phase | send phase | sendNothing phase =>
      cases hs.phase.symm.trans phase
  | heard phase pending reply =>
    cases does with
    | carryOut _ pending' going =>
      cases pending.symm.trans pending'
      obtain ⟨r, earned⟩ := exists_reply_answer going t.id t.order t.store
      rw [earned]
      exact .inr (.carriedOut rfl rfl earned going)
    | carryNothing _ none => cases pending.symm.trans none
    | drop phase' | receive phase' | refuse phase' | send phase' | sendNothing phase' =>
      cases phase.symm.trans phase'
  | carriedOut phase pending reply going =>
    obtain ⟨idle, act_eq⟩ := does.of_respond phase pending
    rw [act_eq, reply]
    exact .inl ⟨idle, .served _ going⟩
  | refused phase pending reply refusal =>
    obtain ⟨idle, act_eq⟩ := does.of_respond phase pending
    rw [act_eq, reply]
    exact .inl ⟨idle, .refused _ refusal⟩
  | passedOver phase pending reply =>
    obtain ⟨idle, act_eq⟩ := does.of_respond phase pending
    rw [act_eq, reply]
    exact .inl ⟨idle, .passedOver _⟩

/-- A course from an idle session is made of cycles, and of the beginning of one more. -/
theorem Course.exists_cycles (hs : s.Idle) (course : s.Course acts t) :
    ∃ (cycles : List (List Act)) (begun : List Act), acts = cycles.flatten ++ begun ∧
      (∀ cycle ∈ cycles, Cycle s.order cycle) ∧ t.Within begun := by
  induction course with
  | start => exact ⟨[], [], rfl, fun _ h => absurd h List.not_mem_nil, .idle hs⟩
  | @act acts act t u course does ih =>
    obtain ⟨cycles, begun, rfl, whole, within⟩ := ih
    rw [List.append_assoc]
    rcases within.does does with ⟨idle, cycle⟩ | within
    · rw [course.order_eq] at cycle
      refine ⟨cycles ++ [begun ++ [act]], [], ?_, ?_, .idle idle⟩
      · rw [List.flatten_append, List.flatten_singleton, List.append_nil]
      · exact List.forall_mem_append.2 ⟨whole, List.forall_mem_singleton.2 cycle⟩
    · exact ⟨cycles, begun ++ [act], rfl, whole, within⟩

/-- The session, which has done these acts, has a request to carry out or a reply to send where its
phase says so and nowhere else, and has no reply to send there only if it heard a setup. -/
def Holds (t : Session) (acts : List Act) : Prop :=
  match t.phase with
  | .awaitOpcode => t.pending = none ∧ t.reply = none
  | .dispatch => (∃ m, t.pending = some m) ∧ t.reply = none
  | .respond => t.pending = none ∧
      (t.reply = none → ∃ fault, acts.getLast? = some (.hear ⟨.setup, .error fault⟩))

theorem Within.holds (h : t.Within begun) (done : List Act) : t.Holds (done ++ begun) := by
  unfold Holds
  cases h with
  | idle hs =>
    rw [hs.phase]
    exact ⟨hs.pending, hs.reply⟩
  | heard phase pending reply =>
    rw [phase]
    exact ⟨⟨_, pending⟩, reply⟩
  | carriedOut phase pending reply | refused phase pending reply =>
    rw [phase]
    exact ⟨pending, fun missing => nomatch reply.symm.trans missing⟩
  | @passedOver fault phase pending reply =>
    rw [phase]
    exact ⟨pending, fun _ => ⟨fault, List.getLast?_concat⟩⟩

theorem Within.phase_of_pending {m : Request} (h : t.Within begun) (pending : t.pending = some m) :
    t.phase = .dispatch := by
  cases h with
  | heard phase => exact phase
  | idle hs => cases hs.pending.symm.trans pending
  | carriedOut _ none | refused _ none | passedOver _ none => cases none.symm.trans pending

theorem Within.phase_of_reply {r : Reply} (h : t.Within begun) (reply : t.reply = some r) :
    t.phase = .respond := by
  cases h with
  | carriedOut phase | refused phase => exact phase
  | idle hs => cases hs.reply.symm.trans reply
  | heard _ _ none | passedOver _ _ none => cases none.symm.trans reply

/-- A session that has a request carries it out next, unless it stops at it. -/
theorem Within.step_of_pending {m : Request} (h : t.Within begun) (pending : t.pending = some m) :
    t.step =
      if m = .quit then (some .quit, { t with pending := none }) else (none, t.answering m) := by
  have phase := h.phase_of_pending pending
  split
  · rename_i quits
    rw [quits] at pending
    exact step_of_quit phase pending
  · rename_i going
    exact (Does.carryOut phase pending going).step

/-- A session that has a reply sends it next. -/
theorem Within.step_of_reply {r : Reply} (h : t.Within begun) (reply : t.reply = some r) :
    t.step.2.sink = (t.sink.send r.bytes).2 ∧ t.step.2.reply = none := by
  rw [Session.step_of_reply (h.phase_of_reply reply) reply]
  rcases t.sink.send r.bytes with ⟨fault | ⟨⟩, k⟩
  · exact ⟨rfl, rfl⟩
  · exact ⟨rfl, rfl⟩

theorem Within.meant (h : t.Within begun) : ∀ act ∈ begun, act.Meant := by
  cases h with
  | idle => exact fun _ h => absurd h List.not_mem_nil
  | heard | refused | passedOver => simp [Act.Meant]
  | carriedOut _ _ _ going => simp [Act.Meant, going]

/-- A session that begins idle does whole cycles, one after the other.  In each it carries out what
it has heard once, before it reads on, and sends the one reply that this earns. -/
theorem course_cycles (hs : s.Idle) :
    (∀ t, Relation.ReflTransGen (fun a b => a.step = (none, b)) s t ↔ ∃ acts, s.Course acts t) ∧
      ∀ acts t, s.Course acts t →
        t.Holds acts ∧
        .carryNothing ∉ acts ∧ (∀ reply, .carryOut .quit reply ∉ acts) ∧
        (∃ (cycles : List (List Act)) (begun : List Act), acts = cycles.flatten ++ begun ∧
          (∀ cycle ∈ cycles, Cycle s.order cycle) ∧ t.Within begun) ∧
        t.store = acts.foldl (Act.storeAfter s.id s.order) s.store ∧
        s.sink.sendAll ((acts.filterMap Act.sent?).map (·.bytes)) = (.ok (), t.sink) ∧
        (∀ m, t.pending = some m → t.step =
          if m = .quit then (some .quit, { t with pending := none }) else (none, t.answering m)) ∧
        ∀ r, t.reply = some r →
          t.step.2.sink = (t.sink.send r.bytes).2 ∧ t.step.2.reply = none := by
  refine ⟨fun t => reflTransGen_iff_course, fun acts t course => ?_⟩
  obtain ⟨cycles, begun, rfl, whole, within⟩ := course.exists_cycles hs
  have meant : ∀ act ∈ cycles.flatten ++ begun, act.Meant := by
    refine List.forall_mem_append.2 ⟨?_, within.meant⟩
    intro act among
    obtain ⟨cycle, hcycle, hact⟩ := List.mem_flatten.1 among
    exact (whole cycle hcycle).meant act hact
  exact ⟨within.holds cycles.flatten, fun among => (meant _ among).1 rfl,
    fun reply among => (meant _ among).2 reply rfl, ⟨cycles, begun, rfl, whole, within⟩,
    course.store_eq, course.sendAll, fun m => within.step_of_pending, fun r => within.step_of_reply⟩

end

attribute [local instance] Platform.x86_64 in
/-- The session is asked to set a session up, to which nothing is sent, and then for the events. -/
theorem course_cycles_after_setup :
    let s : Session :=
      { id := 1, order := .big, maxSeats := 2, store := .empty 9 0
        source := [.data [0x31, 0x36, 0x32]] }
    let u := s.step.2
    let t := u.step.2.step.2
    (u.reply = none ∧ ∃ acts fault, s.Course acts u ∧
      acts.getLast? = some (.hear ⟨.setup, .error fault⟩)) ∧
    (t.pending = some .list ∧ ∃ (acts : List Act) (cycles : List (List Act)) (begun : List Act),
      s.Course acts t ∧ acts = cycles.flatten ++ begun ∧ (∀ cycle ∈ cycles, Cycle .big cycle) ∧
        t.Within begun) ∧
    t.step = (none, t.answering .list) := by
  intro s u t
  have idle : s.Idle := ⟨rfl, rfl, rfl⟩
  have first : Relation.ReflTransGen (fun a b => a.step = (none, b)) s u := .single rfl
  have others : Relation.ReflTransGen (fun a b => a.step = (none, b)) u t :=
    .head rfl (.single rfl)
  obtain ⟨reached, holds⟩ := course_cycles idle
  obtain ⟨acts, course⟩ := (reached u).1 first
  obtain ⟨acts', course'⟩ := (reached t).1 (first.trans others)
  obtain ⟨held, -⟩ := holds acts u course
  obtain ⟨-, -, -, ⟨cycles, begun, made, whole, within⟩, -, -, next, -⟩ := holds acts' t course'
  obtain ⟨fault, last⟩ := held.2 rfl
  exact ⟨⟨rfl, acts, fault, course, last⟩,
    ⟨rfl, acts', cycles, begun, course', made, whole, within⟩, next .list rfl⟩

end Session

end BoxOffice
