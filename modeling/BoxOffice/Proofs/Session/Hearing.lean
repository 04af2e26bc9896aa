import BoxOffice.Proofs.Session.Answer
import BoxOffice.Proofs.Session.Cycle
/-!
# What a session hears

`Hears` cuts a stream, whatever comes on it, into what follows each opcode, up to the end of the
session; `serveAll` carries that out in order.  A session does no more and no less
(`Session.concludes_of_hears`).

* `exists_hears`: every stream is heard to an end.
* `Session.run_replies`: the replies of a session are one for each opcode that earns one, in order,
  and each is understood by the client of its opcode.
-/

namespace BoxOffice

section

variable [Platform]

/-- What is heard on a stream up to the end of the session, and what is left of the stream then. -/
inductive Hears (order : ByteOrder) (maxSeats : UInt64) :
    Source → List Heard → Ending → Source → Prop
  | closed {s t : Source} (hb : Source.byte? s = (.ok none, t)) :
      Hears order maxSeats s [] .peerClosed t
  | failed {s t : Source} {fault : Fault} (hb : Source.byte? s = (.error fault, t)) :
      Hears order maxSeats s [] (.broken fault) t
  | dropped {s t rest : Source} {b : UInt8} {fault : Fault} {heard : List Heard} {ending : Ending}
      (hb : Source.byte? s = (.ok (some b), t)) (hop : Opcode.ofByte b = .error fault)
      (later : Hears order maxSeats t heard ending rest) :
      Hears order maxSeats s heard ending rest
  | last {s t rest : Source} {b : UInt8} {h : Heard} {ending : Ending}
      (hb : Source.byte? s = (.ok (some b), t)) (hop : Opcode.ofByte b = .ok h.opcode)
      (hbody : Request.decode order maxSeats h.opcode t = (h.body, rest))
      (ends : h.ending? = some ending) : Hears order maxSeats s [h] ending rest
  | next {s t u rest : Source} {b : UInt8} {h : Heard} {heard : List Heard} {ending : Ending}
      (hb : Source.byte? s = (.ok (some b), t)) (hop : Opcode.ofByte b = .ok h.opcode)
      (hbody : Request.decode order maxSeats h.opcode t = (h.body, u)) (going : h.ending? = none)
      (later : Hears order maxSeats u heard ending rest) :
      Hears order maxSeats s (h :: heard) ending rest

theorem exists_hears (order : ByteOrder) (maxSeats : UInt64) (source : Source) :
    ∃ heard ending rest, Hears order maxSeats source heard ending rest := by
  generalize hw : source.weight = w
  induction w using Nat.strongRecOn generalizing source with
  | ind w ih =>
    subst hw
    rcases hb : Source.byte? source with ⟨_ | _ | b, t⟩
    · exact ⟨_, _, _, .failed hb⟩
    · exact ⟨_, _, _, .closed hb⟩
    · have lighter := Source.weight_lt_of_byte? hb
      cases hop : Opcode.ofByte b with
      | error fault =>
        obtain ⟨heard, ending, rest, later⟩ := ih _ lighter t rfl
        exact ⟨_, _, _, .dropped hb hop later⟩
      | ok op =>
        rcases hbody : Request.decode order maxSeats op t with ⟨body, u⟩
        have lightens := Request.lightens_decode order maxSeats op t
        rw [show (Request.decode order maxSeats op).run t = (body, u) from hbody] at lightens
        cases ends : Heard.ending? ⟨op, body⟩ with
        | some ending => exact ⟨_, _, _, .last (h := ⟨op, body⟩) hb hop hbody ends⟩
        | none =>
          obtain ⟨heard, ending, rest, later⟩ := ih _ (Nat.lt_of_le_of_lt lightens lighter) u rfl
          exact ⟨_, _, _, .next (h := ⟨op, body⟩) hb hop hbody ends later⟩

/-- After an opcode one thing is heard. -/
theorem Heard.eq_of_decode {order : ByteOrder} {maxSeats : UInt64} {s t t' u u' : Source}
    {b b' : UInt8} {h h' : Heard} (hb : Source.byte? s = (.ok (some b), t))
    (hop : Opcode.ofByte b = .ok h.opcode)
    (hbody : Request.decode order maxSeats h.opcode t = (h.body, u))
    (hb' : Source.byte? s = (.ok (some b'), t')) (hop' : Opcode.ofByte b' = .ok h'.opcode)
    (hbody' : Request.decode order maxSeats h'.opcode t' = (h'.body, u')) : h = h' ∧ u = u' := by
  obtain ⟨op, body⟩ := h
  obtain ⟨op', body'⟩ := h'
  cases hb.symm.trans hb'
  cases hop.symm.trans hop'
  cases hbody.symm.trans hbody'
  exact ⟨rfl, rfl⟩

/-- A stream is heard in one way only. -/
theorem Hears.unique {order : ByteOrder} {maxSeats : UInt64} {source rest rest' : Source}
    {heard heard' : List Heard} {ending ending' : Ending}
    (hears : Hears order maxSeats source heard ending rest)
    (hears' : Hears order maxSeats source heard' ending' rest') :
    heard = heard' ∧ ending = ending' ∧ rest = rest' := by
  induction hears generalizing heard' with
  | closed hb | failed hb => cases hears' <;> grind
  | dropped hb hop _ ih => cases hears' <;> grind
  | last hb hop hbody ends =>
    cases hears' with
    | closed hb' | failed hb' => cases hb.symm.trans hb'
    | dropped hb' hop' => grind
    | last hb' hop' hbody' ends' =>
      obtain ⟨rfl, rfl⟩ := Heard.eq_of_decode hb hop hbody hb' hop' hbody'
      exact ⟨rfl, Option.some.inj (ends.symm.trans ends'), rfl⟩
    | next hb' hop' hbody' going =>
      obtain ⟨rfl, -⟩ := Heard.eq_of_decode hb hop hbody hb' hop' hbody'
      cases ends.symm.trans going
  | next hb hop hbody going _ ih =>
    cases hears' with
    | closed hb' | failed hb' => cases hb.symm.trans hb'
    | dropped hb' hop' => grind
    | last hb' hop' hbody' ends =>
      obtain ⟨rfl, -⟩ := Heard.eq_of_decode hb hop hbody hb' hop' hbody'
      cases ends.symm.trans going
    | next hb' hop' hbody' _ later' =>
      obtain ⟨rfl, rfl⟩ := Heard.eq_of_decode hb hop hbody hb' hop' hbody'
      obtain ⟨rfl, same⟩ := ih later'
      exact ⟨rfl, same⟩

/-! ## Carrying it out -/

/-- The replies that are earned one after the other, and the store afterwards. -/
def serveAll (session : Int32) (order : ByteOrder) : Store → List Heard → List Reply × Store
  | store, [] => ([], store)
  | store, h :: heard =>
    let (replies, after) := serveAll session order (h.storeAfter session order store) heard
    ((h.reply? session order store).toList ++ replies, after)

theorem serveAll_append (session : Int32) (order : ByteOrder) (store : Store)
    (heard others : List Heard) :
    serveAll session order store (heard ++ others) =
      ((serveAll session order store heard).1 ++
          (serveAll session order (serveAll session order store heard).2 others).1,
        (serveAll session order (serveAll session order store heard).2 others).2) := by
  induction heard generalizing store with
  | nil => rfl
  | cons h heard ih =>
    rw [List.cons_append, serveAll, ih]
    exact Prod.ext (List.append_assoc ..).symm rfl

namespace Session

variable {order : ByteOrder} {maxSeats : UInt64} {source rest : Source} {heard : List Heard}
  {ending : Ending}

/-- A session carries out what is heard on its stream, and comes to its end by it on every sink that
takes the replies. -/
theorem concludes_of_hears (hears : Hears order maxSeats source heard ending rest) {s : Session}
    (hs : s.Idle) (horder : s.order = order) (hseats : s.maxSeats = maxSeats)
    (hsource : s.source = source) :
    ∃ t, s.Concludes ending t (serveAll s.id order s.store heard).1 heard.length ∧
      t.source = rest ∧ t.store = (serveAll s.id order s.store heard).2 := by
  induction hears generalizing s with
  | closed hb =>
    subst hsource
    exact ⟨_, concludes_of_closed hs hb, rfl, rfl⟩
  | failed hb =>
    subst hsource
    exact ⟨_, concludes_of_failed hs hb, rfl, rfl⟩
  | @dropped _ t _ _ fault _ _ hb hop _ ih =>
    subst hsource
    have first := leads_dropped hs hb hop
    obtain ⟨u, others, left⟩ := ih (s := { s with source := t }.note (.byteDropped s.id fault))
      ⟨hs.phase, hs.pending, hs.reply⟩ horder hseats rfl
    have all := first.concludes others
    rw [Nat.zero_add] at all
    exact ⟨u, all, left⟩
  | last hb hop hbody ends =>
    subst horder hseats hsource
    obtain ⟨t, concludes, left⟩ := concludes_of_last hs hb hop hbody ends
    refine ⟨t, ?_, left⟩
    show s.Concludes _ t (_ ++ []) 1
    rw [List.append_nil]
    exact concludes
  | @next _ _ v _ _ h heard _ hb hop hbody going _ ih =>
    subst horder hseats hsource
    obtain ⟨first, idle⟩ := leads_cycle hs hb hop hbody going
    obtain ⟨u, others, left⟩ := ih idle first.order first.maxSeats (source_replying s h v)
    have store : (s.replying h v).replied.store = h.storeAfter s.id s.order s.store :=
      store_replying s h v
    rw [first.id, store] at others left
    refine ⟨u, ?_, left⟩
    rw [List.length_cons, Nat.add_comm]
    exact first.concludes others

theorem run_of_hears {s : Session} (hears : Hears order maxSeats source heard ending rest)
    (hs : s.Idle) (accepting : s.sink.Accepting) (horder : s.order = order)
    (hseats : s.maxSeats = maxSeats) (hsource : s.source = source) :
    ∃ t, s.run = (ending, t) ∧
      (t.source = rest ∧ t.store = (serveAll s.id order s.store heard).2) ∧
      s.Follows t (serveAll s.id order s.store heard).1 heard.length := by
  obtain ⟨t, concludes, left⟩ := concludes_of_hears hears hs horder hseats hsource
  obtain ⟨k, all, follows⟩ := concludes.toTallies.follows accepting
  exact ⟨_, concludes.runs s.sink k all, left, follows⟩

end Session

/-! ## The replies -/

namespace Heard

/-- The opcode came, but the stream broke before its request was whole. -/
def isBroken (h : Heard) : Bool :=
  match h.body with
  | .ok _ => false
  | .error fault => fault.isTransport

/-- The opcode is one whose client waits for a reply, and its request was there to be answered. -/
def earnsReply (h : Heard) : Bool :=
  match h.opcode with
  | .setup | .quit => false
  | .create | .reserve | .view | .list => !h.isBroken

/-- The request, if there is one, is of the kind that the opcode says. -/
def Matches (h : Heard) : Prop := ∀ m, h.body = .ok m → m.opcode = h.opcode

/-- A reply that is earned is given, and its client understands it. -/
theorem exists_reply {h : Heard} (matching : h.Matches) (earns : h.earnsReply = true)
    {store : Store} (hs : store.Sound) (session : Int32) (order : ByteOrder) :
    ∃ r, h.reply? session order store = some r ∧ r.IsFor order h.opcode := by
  obtain ⟨op, body⟩ := h
  cases body with
  | ok m =>
    obtain rfl : m.opcode = op := matching m rfl
    have going : m ≠ .quit := by
      rintro rfl
      cases earns
    obtain ⟨result, reply, -, replied, received, outcome⟩ := answer_eq_desk hs session order going
    exact ⟨reply, replied, Reply.isFor_of_result going received outcome⟩
  | error fault =>
    have whole : fault.isTransport = false := by
      cases op with
      | setup | quit => cases earns
      | create | reserve | view | list => exact Bool.not_inj earns
    unfold reply?
    dsimp only
    rw [whole]
    cases op with
    | setup | quit => cases earns
    | create | reserve | view | list => exact ⟨_, rfl, isFor_refusal rfl⟩

/-- No other reply is given. -/
theorem reply?_eq_none {h : Heard} (matching : h.Matches) (silent : h.earnsReply = false)
    (session : Int32) (order : ByteOrder) (store : Store) :
    h.reply? session order store = none := by
  obtain ⟨op, body⟩ := h
  cases body with
  | ok m =>
    obtain rfl : m.opcode = op := matching m rfl
    cases m with
    | quit => rfl
    | create | reserve | view | list => cases silent
  | error fault =>
    unfold reply?
    dsimp only
    split
    · rfl
    · rename_i whole
      cases op with
      | setup | quit => rfl
      | create | reserve | view | list =>
        exact absurd (show fault.isTransport = true from Bool.not_inj silent) whole

theorem reachable_storeAfter {store : Store} (hs : store.Reachable) (session : Int32)
    (order : ByteOrder) (h : Heard) : (h.storeAfter session order store).Reachable := by
  unfold storeAfter
  split
  · exact hs.answer session order _
  · exact hs

end Heard

theorem reachable_serveAll {store : Store} (hs : store.Reachable) (session : Int32)
    (order : ByteOrder) (heard : List Heard) :
    (serveAll session order store heard).2.Reachable := by
  induction heard generalizing store with
  | nil => exact hs
  | cons h heard ih => exact ih (h.reachable_storeAfter hs session order)

/-- One reply for each opcode that earns one, in order. -/
theorem forall₂_serveAll {store : Store} (hs : store.Reachable) (session : Int32)
    (order : ByteOrder) {heard : List Heard} (matching : ∀ h ∈ heard, h.Matches) :
    List.Forall₂ (fun h r => r.IsFor order h.opcode) (heard.filter (·.earnsReply))
      (serveAll session order store heard).1 := by
  induction heard generalizing store with
  | nil => exact .nil
  | cons h heard ih =>
    obtain ⟨first, others⟩ := List.forall_mem_cons.1 matching
    have rest := ih (h.reachable_storeAfter hs session order) others
    show List.Forall₂ _ _ ((h.reply? session order store).toList ++ _)
    cases earns : h.earnsReply with
    | true =>
      obtain ⟨r, replied, understood⟩ := Heard.exists_reply first earns hs.sound session order
      rw [List.filter_cons_of_pos earns, replied]
      exact .cons understood rest
    | false =>
      rw [List.filter_cons_of_neg (Bool.eq_false_iff.1 earns),
        Heard.reply?_eq_none first earns session order store]
      exact rest

namespace Hears

variable {order : ByteOrder} {maxSeats : UInt64} {source rest : Source} {heard : List Heard}
  {ending : Ending}

theorem forall_matches (hears : Hears order maxSeats source heard ending rest) :
    ∀ h ∈ heard, h.Matches := by
  have decoded : ∀ {h : Heard} {s t : Source},
      Request.decode order maxSeats h.opcode s = (h.body, t) → h.Matches := by
    intro h s t hbody m hm
    rw [hm] at hbody
    exact Request.opcode_of_decode hbody
  induction hears with
  | closed | failed => exact fun _ hh => absurd hh List.not_mem_nil
  | dropped _ _ _ ih => exact ih
  | last _ _ hbody _ => exact List.forall_mem_singleton.2 (decoded hbody)
  | next _ _ hbody _ _ ih => exact List.forall_mem_cons.2 ⟨decoded hbody, ih⟩

/-- Only the last request can break off. -/
theorem forall_not_broken (hears : Hears order maxSeats source heard ending rest) :
    ∀ h ∈ heard.dropLast, h.isBroken = false := by
  induction hears with
  | closed | failed | last => exact fun _ hh => absurd hh List.not_mem_nil
  | dropped _ _ _ ih => exact ih
  | @next _ _ _ _ _ h heard _ _ _ _ going _ ih =>
    have whole : h.isBroken = false := by
      obtain ⟨op, body⟩ := h
      cases body with
      | ok m => rfl
      | error fault => exact Heard.ending?_fault.1 going
    cases heard with
    | nil => exact fun _ hh => absurd hh List.not_mem_nil
    | cons h' heard =>
      rw [List.dropLast_cons_cons]
      exact List.forall_mem_cons.2 ⟨whole, ih⟩

end Hears

/-- Whatever comes on its stream, a session ends and has sent one reply for each opcode that earns
one, in order.  An opcode earns none only if it never does, or if the stream broke off within its
request, which is then the last one. -/
theorem Session.run_replies {s : Session} (hs : s.Idle) (reachable : s.store.Reachable)
    (accepting : s.sink.Accepting) :
    ∃ (heard : List Heard) (ending : Ending) (rest : Source) (replies : List Reply) (t : Session),
      Hears s.order s.maxSeats s.source heard ending rest ∧
      s.Ends ending t ∧ s.run = (ending, t) ∧ t.source = rest ∧ t.store.Reachable ∧
      t.sink.written = s.sink.written ++ replies.flatMap (·.bytes) ∧
      List.Forall₂ (fun h r => r.IsFor s.order h.opcode) (heard.filter (·.earnsReply)) replies ∧
      (∀ h ∈ heard.dropLast, h.isBroken = false) ∧
      t.requests = s.requests + heard.length ∧
      t.failures = s.failures + replies.countP (!·.outcome.isDone) := by
  obtain ⟨heard, ending, rest, hears⟩ := exists_hears s.order s.maxSeats s.source
  obtain ⟨t, run, ⟨source, store⟩, follows⟩ := run_of_hears hears hs accepting rfl rfl rfl
  have ends := s.ends_run
  rw [run] at ends
  refine ⟨heard, ending, rest, (serveAll s.id s.order s.store heard).1, t, hears, ends, run,
    source, ?_, follows.written, ?_, hears.forall_not_broken, follows.requests, follows.failures⟩
  · rw [store]
    exact reachable_serveAll reachable s.id s.order heard
  · exact forall₂_serveAll reachable s.id s.order hears.forall_matches

end

attribute [local instance] Platform.x86_64 in
/-- A list is asked for in a stream that is interrupted and breaks off within the next request. -/
theorem Session.run_replies_broken_off :
    ∃ (heard : List Heard) (ending : Ending) (rest : Source) (replies : List Reply) (t : Session),
      Hears .big 2 [.data [0x36], .interrupted, .data [0x33, 0]] heard ending rest ∧
      ({ id := 1, order := .big, maxSeats := 2, store := .empty 9 0,
         source := [.data [0x36], .interrupted, .data [0x33, 0]] } : Session).run = (ending, t) ∧
      t.sink.written = replies.flatMap (·.bytes) ∧
      List.Forall₂ (fun h r => r.IsFor .big h.opcode) (heard.filter (·.earnsReply)) replies ∧
      t.requests = heard.length := by
  obtain ⟨heard, ending, rest, replies, t, hears, -, run, -, -, written, understood, -,
      requests, -⟩ :=
    Session.run_replies
      (s := { id := 1, order := .big, maxSeats := 2, store := .empty 9 0,
              source := [.data [0x36], .interrupted, .data [0x33, 0]] })
      ⟨rfl, rfl, rfl⟩ (.empty 9 0) Sink.accepting_nil
  exact ⟨heard, ending, rest, replies, t, hears, run, written, understood,
    requests.trans (Nat.zero_add _)⟩

end BoxOffice
