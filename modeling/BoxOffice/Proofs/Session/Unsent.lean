import BoxOffice.Proofs.Session.Items
import BoxOffice.Proofs.Stream.Sending
/-!
# Replies that cannot be sent

What a session does depends on its sink only in whether the replies can be sent.  On a sink that takes
the replies before it a session is led to each reply that it earns (`Session.leads_to_reply`); if this
one cannot be sent, that is the end (`Session.AboutToSend.stops`).

Main statement: `Session.run_unsent`, which compares the run on any sink with the one on a sink that
takes everything.
-/

namespace BoxOffice

namespace Session

variable {s : Session}

section

variable [Platform]

/-- `q` is about to send the reply `r` to `h`, which was heard after `before`. -/
structure AboutToSend (s q : Session) (before : List Heard) (h : Heard) (r : Reply) : Prop where
  phase : q.phase = .respond
  reply : q.reply = some r
  store : q.store = (serveAll s.id s.order s.store (before ++ [h])).2
  leads : s.Leads q (serveAll s.id s.order s.store before).1 (before.length + 1)

/-- On every sink that takes the replies before it the session comes to send a reply. -/
theorem leads_to_reply {order : ByteOrder} {maxSeats : UInt64} {source rest : Source}
    {heard before after : List Heard} {h : Heard} {ending : Ending} {r : Reply}
    (hears : Hears order maxSeats source heard ending rest) (hs : s.Idle) (horder : s.order = order)
    (hseats : s.maxSeats = maxSeats) (hsource : s.source = source)
    (parts : heard = before ++ h :: after)
    (earned : h.reply? s.id s.order (serveAll s.id s.order s.store before).2 = some r) :
    ∃ q, s.AboutToSend q before h r := by
  induction hears generalizing s before with
  | closed | failed => cases before <;> cases parts
  | @dropped _ t _ _ fault _ _ hb hop _ ih =>
    subst hsource
    have first := leads_dropped hs hb hop
    obtain ⟨q, about⟩ := ih (s := { s with source := t }.note (.byteDropped s.id fault))
      ⟨hs.phase, hs.pending, hs.reply⟩ horder hseats rfl parts earned
    have both := first.trans about.leads
    rw [Nat.zero_add] at both
    exact ⟨q, about.phase, about.reply, about.store, both⟩
  | @last _ _ _ _ h' _ hb hop hbody ends =>
    obtain ⟨rfl, rfl, -⟩ : before = [] ∧ h = h' ∧ after = [] := by
      cases before with
      | nil =>
        cases parts
        exact ⟨rfl, rfl, rfl⟩
      | cons => simp at parts
    rw [Heard.reply?_of_ending ends] at earned
    cases earned
  | @next _ _ v _ _ h' heard _ hb hop hbody going _ ih =>
    subst horder hseats hsource
    cases before with
    | nil =>
      cases parts
      refine ⟨s.replying h v, phase_replying s h v, (reply_replying going s v).trans earned,
        store_replying s h v, leads_replying hs hb hop hbody going⟩
    | cons h₀ before =>
      obtain ⟨rfl, others⟩ := List.cons.inj parts
      obtain ⟨first, idle⟩ := leads_cycle hs hb hop hbody going
      have store : (s.replying h' v).replied.store = h'.storeAfter s.id s.order s.store :=
        store_replying s h' v
      obtain ⟨q, about⟩ := ih idle first.order first.maxSeats (source_replying s h' v) others
        (by rw [first.id, first.order, store]; exact earned)
      have stored := about.store
      have leads := about.leads
      rw [first.id, first.order, store] at stored leads
      refine ⟨q, about.phase, about.reply, stored, ?_⟩
      rw [List.length_cons, Nat.add_comm]
      exact first.trans leads

/-- Every reply is earned by something that was heard, and those before it by what was heard before. -/
theorem exists_heard_of_reply {session : Int32} {order : ByteOrder} {store : Store}
    {heard : List Heard} {sent later : List Reply} {r : Reply}
    (split : (serveAll session order store heard).1 = sent ++ r :: later) :
    ∃ before h after, heard = before ++ h :: after ∧
      (serveAll session order store before).1 = sent ∧
      h.reply? session order (serveAll session order store before).2 = some r := by
  induction heard generalizing store sent with
  | nil => cases sent <;> cases split
  | cons h heard ih =>
    change (h.reply? session order store).toList ++
      (serveAll session order (h.storeAfter session order store) heard).1 = _ at split
    cases earned : h.reply? session order store with
    | none =>
      rw [earned] at split
      obtain ⟨before, h', after, rfl, served, reply⟩ := ih split
      refine ⟨h :: before, h', after, rfl, ?_, reply⟩
      rw [serveAll, earned]
      exact served
    | some r' =>
      rw [earned] at split
      cases sent with
      | nil =>
        obtain ⟨rfl, -⟩ := List.cons.inj split
        exact ⟨[], h, heard, rfl, rfl, earned⟩
      | cons r₀ sent =>
        obtain ⟨rfl, others⟩ := List.cons.inj split
        obtain ⟨before, h', after, rfl, served, reply⟩ := ih others
        refine ⟨h :: before, h', after, rfl, ?_, reply⟩
        rw [serveAll, earned]
        exact congrArg (List.cons r') served

/-- The session is over as `t` because the reply `r` could not be sent, when another session, at `q`,
was about to send the same reply. -/
structure StopsAt (s q t : Session) (sent : List Reply) (r : Reply) (asked : Nat) : Prop where
  phase : q.phase = .respond
  reply : q.reply = some r
  written : ∃ part, part <+: r.bytes ∧
    t.sink.written = s.sink.written ++ sent.flatMap (·.bytes) ++ part
  source : t.source = q.source
  store : t.store = q.store
  requests : t.requests = s.requests + asked
  failures : t.failures = s.failures + (sent ++ [r]).countP (!·.outcome.isDone)

theorem AboutToSend.stops {s q : Session} {before : List Heard} {h : Heard} {r : Reply}
    (about : s.AboutToSend q before h r) {sent : List Reply}
    (served : (serveAll s.id s.order s.store before).1 = sent) {k k' : Sink} {fault : Fault}
    (all : s.sink.sendAll (sent.map (·.bytes)) = (.ok (), k))
    (fails : k.send r.bytes = (.error fault, k')) :
    ∃ t, s.run = (.broken fault, t) ∧ s.StopsAt q t sent r (before.length + 1) := by
  subst served
  have step := step_of_reply (s := { q with sink := k }) about.phase about.reply
  dsimp only at step
  rw [fails] at step
  refine ⟨_, (run_of_moves (about.leads.moves s.sink k all)).trans (run_of_step_some step),
    about.phase, about.reply, ?_, rfl, rfl, about.leads.requests, ?_⟩
  · obtain ⟨-, part, initial, written⟩ := Sink.send_error fails
    refine ⟨part, initial, ?_⟩
    rw [List.flatMap_def, ← Sink.written_of_sendAll all]
    exact written
  · show q.failures + q.reply.toList.countP (!·.outcome.isDone) = _
    rw [about.reply, about.leads.failures, List.countP_append, Nat.add_assoc]
    rfl

/-- A run depends on the sink only in whether the replies can be sent.  Where all can, it comes to the
same as on a sink that takes everything.  Otherwise it ends at the first that cannot: of this reply a
front part was written at most, and nothing was read or carried out after the request that earned it. -/
theorem run_unsent {s : Session} (hs : s.Idle) {perfect : Sink} (accepting : perfect.Accepting) :
    ∃ (heard : List Heard) (ending : Ending) (rest : Source) (replies : List Reply) (p : Session),
      Hears s.order s.maxSeats s.source heard ending rest ∧
      replies = (serveAll s.id s.order s.store heard).1 ∧
      ({ s with sink := perfect } : Session).run = (ending, p) ∧
      perfect.sendAll (replies.map (·.bytes)) = (.ok (), p.sink) ∧
      (∀ k, s.sink.sendAll (replies.map (·.bytes)) = (.ok (), k) →
        s.run = (ending, { p with sink := k }) ∧
          k.written = s.sink.written ++ replies.flatMap (·.bytes)) ∧
      ∀ sent r later k k' fault, replies = sent ++ r :: later →
        s.sink.sendAll (sent.map (·.bytes)) = (.ok (), k) → k.send r.bytes = (.error fault, k') →
        fault.isTransport = true ∧
        ∃ (before after : List Heard) (h : Heard) (q t : Session), heard = before ++ h :: after ∧
          (serveAll s.id s.order s.store before).1 = sent ∧
          h.reply? s.id s.order (serveAll s.id s.order s.store before).2 = some r ∧
          Relation.ReflTransGen Moves { s with sink := perfect } q ∧
          perfect.sendAll (sent.map (·.bytes)) = (.ok (), q.sink) ∧
          q.store = (serveAll s.id s.order s.store (before ++ [h])).2 ∧
          s.run = (.broken fault, t) ∧ s.StopsAt q t sent r (before.length + 1) := by
  obtain ⟨heard, ending, rest, hears⟩ := exists_hears s.order s.maxSeats s.source
  obtain ⟨t, concludes, -⟩ := concludes_of_hears hears hs rfl rfl rfl
  obtain ⟨k₀, taken, -⟩ := accepting.sendAll ((serveAll s.id s.order s.store heard).1.map (·.bytes))
  refine ⟨heard, ending, rest, _, _, hears, rfl, concludes.runs _ _ taken, taken, ?_, ?_⟩
  · intro k all
    refine ⟨concludes.runs _ _ all, ?_⟩
    rw [Sink.written_of_sendAll all, List.flatMap_def]
  · intro sent r later k k' fault split all fails
    obtain ⟨before, h, after, parts, served, earned⟩ := exists_heard_of_reply split
    obtain ⟨q, about⟩ := leads_to_reply hears hs rfl rfl rfl parts earned
    obtain ⟨k₁, first, -⟩ := accepting.sendAll (sent.map (·.bytes))
    obtain ⟨t', run, stops⟩ := about.stops served all fails
    refine ⟨(Sink.send_error fails).1, before, after, h, { q with sink := k₁ }, t', parts, served,
      earned, ?_, first, about.store, run, ?_⟩
    · rw [← served] at first
      exact about.leads.moves perfect k₁ first
    · exact ⟨stops.phase, stops.reply, stops.written, stops.source, stops.store, stops.requests,
        stops.failures⟩

end

attribute [local instance] Platform.x86_64 in
/-- Three events are put on sale, and of the second reply the sink takes three bytes. -/
theorem run_unsent_second_reply :
    let items : List Item :=
      [.request (.create 7 1 1), .request (.create 8 1 1), .request (.create 9 1 1)]
    let s : Session :=
      { id := 3, order := .big, maxSeats := 2, store := .empty 9 0
        source := [.data (items.flatMap (·.encode .big))]
        sink := { writes := [.takes 4, .takes 3, .takes 0] } }
    ∃ t, s.run = (.broken (.transport .closedDuringWrite), t) ∧
      (∃ part, part <+: [0, 0, 0, 0] ∧ t.sink.written = [0, 0, 0, 0] ++ part) ∧
      t.store = Item.storeAfter 3 .big (.empty 9 0) (items.take 2) ∧ t.requests = 2 ∧
      t.failures = 0 := by
  intro items s
  have valid : ∀ i ∈ items, i.Valid 2 := by decide
  have gives : Source.Gives false s.source (items.flatMap (·.encode .big) ++ []) [] := by
    rw [List.append_nil]
    exact Source.gives_data false _ []
  obtain ⟨t, next, hears⟩ := Item.hears_all valid (by decide) gives
  have last : Hears .big 2 t [] .peerClosed [] := .closed (Source.byte?_of_gives_nil next)
  obtain ⟨heard, ending, rest, replies, p, hears', rfl, -, -, -, unsent⟩ :=
    run_unsent (s := s) ⟨rfl, rfl, rfl⟩ Sink.accepting_nil
  obtain ⟨rfl, -⟩ := (hears last).unique hears'
  let done : Reply := { outcome := .done, bytes := [0, 0, 0, 0] }
  have replies : (serveAll 3 .big (.empty 9 0) (items.flatMap (·.heard 2) ++ [])).1 =
      [done, done, done] := by decide
  obtain ⟨-, before, after, h, q, u, parts, served, earned, -, -, store, run, stops⟩ :=
    unsent [done] done [done] _ _ _ replies rfl rfl
  obtain ⟨rfl, rfl⟩ : before = [⟨.create, .ok (.create 7 1 1)⟩] ∧
      h = ⟨.create, .ok (.create 8 1 1)⟩ := by
    rcases before with _ | ⟨a, _ | ⟨b, before⟩⟩
    · cases served
    · cases parts
      exact ⟨rfl, rfl⟩
    · obtain ⟨rfl, more⟩ := List.cons.inj parts
      obtain ⟨rfl, -⟩ := List.cons.inj more
      cases served
  obtain ⟨part, initial, written⟩ := stops.written
  exact ⟨u, run, ⟨part, initial, written⟩, stops.store.trans store, stops.requests, stops.failures⟩

end Session

end BoxOffice
