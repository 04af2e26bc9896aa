import BoxOffice.Proofs.Job.Simulation
import BoxOffice.Proofs.Session.Answer
import BoxOffice.Proofs.Session.Cycle
import BoxOffice.Session.Link
/-!
# Jobs over the wire

A link `Serves` a store when its session works on that store and waits for a request, and nothing is
under way in either direction.  Then a request that goes over the wire is answered as the store at
hand would answer it, and the link serves the store that this leaves (`Link.desk_of_serves`).  So it
makes no difference to a job which of the two it is done with (`Job.run_link`).
-/

namespace BoxOffice

open Source

section

variable [Platform]

/-- A session that waits and finds one whole request on its stream answers it and waits again. -/
theorem Session.catchUp_of_request {s : Session} (hs : s.Idle) (accepting : s.sink.Accepting)
    {m : Request} (going : m ≠ .quit) (fits : m.Fits s.maxSeats)
    (gives : Gives true s.source (m.encode s.order) []) :
    ∃ t, s.catchUp = (none, t) ∧ t.Idle ∧ Gives true t.source [] [] ∧
      t.store = (answer s.id s.order s.store m).store ∧
      s.Follows t (answer s.id s.order s.store m).reply.toList 1 := by
  obtain ⟨u, hb, body⟩ := byte?_of_gives gives
  rw [← List.append_nil (m.body _)] at body
  obtain ⟨v, hbody, spent⟩ := Request.consumes_decode s.order fits true u [] [] body
  obtain ⟨t, moves, idle, ⟨source, store⟩, follows⟩ :=
    moves_heard (h := ⟨m.opcode, .ok m⟩) hs accepting hb m.opcode.ofByte_byte hbody
      (Heard.ending?_request.2 going)
  rw [← source] at spent
  refine ⟨t, ?_, idle, spent, store, follows⟩
  rw [catchUp_of_moves moves]
  exact catchUp_of_spent idle spent.isSpent

namespace Link

/-- The link's session waits for a request, with this store; every byte sent was read. -/
structure Serves (maxSeats : UInt64) (l : Link) (store : Store) : Prop where
  going : l.ending = none
  idle : l.session.Idle
  accepting : l.session.sink.Accepting
  emptied : l.session.sink.deliveries = []
  source : Gives true l.session.source [] []
  inbox : Gives true l.inbox [] []
  order : l.session.order = l.order
  maxSeats : l.session.maxSeats = maxSeats
  holds : l.session.store = store
  reachable : store.Reachable

/-- The session takes the request, and its reply comes into the inbox. -/
theorem post_of_serves {maxSeats : UInt64} {l : Link} {store : Store} (h : l.Serves maxSeats store)
    {m : Request} (going : m ≠ .quit) (fits : m.Fits maxSeats) {reply : Reply}
    (replied : (answer l.session.id l.order store m).reply = some reply) :
    ∃ l', post (m.encode l.order) l = (.ok (), l') ∧ l'.order = l.order ∧
      Gives true l'.inbox reply.bytes [] ∧ ∀ inbox, Gives true inbox [] [] →
        Serves maxSeats { l' with inbox } (answer l.session.id l.order store m).store := by
  obtain rfl := h.holds
  obtain rfl := h.maxSeats
  rw [← h.order] at replied ⊢
  let s : Session := { l.session with
    source := l.session.source ++ [.data (m.encode l.session.order)] }
  obtain ⟨t, caught, idle, spent, left, follows⟩ := Session.catchUp_of_request (s := s)
    ⟨h.idle.phase, h.idle.pending, h.idle.reply⟩ h.accepting going fits (h.source.followed _)
  have written : t.sink.written = reply.bytes := by
    have earned : (answer s.id s.order s.store m).reply = some reply := replied
    have unused : s.sink.written = [] := by
      unfold Sink.written
      rw [show s.sink.deliveries = [] from h.emptied]
      rfl
    rw [follows.written, earned, unused, Option.toList_some, List.flatMap_singleton,
      List.nil_append]
  refine ⟨{ l with
    session := { t with sink := { t.sink with deliveries := [] } }
    inbox := l.inbox ++ [.data reply.bytes]
    ending := none }, ?_, h.order.symm, h.inbox.followed _,
    fun inbox empty => ⟨rfl, ?_, ?_, rfl, spent, empty, ?_, ?_, ?_, ?_⟩⟩
  · unfold post
    rw [h.going]
    show (_, advance _) = _
    unfold advance
    rw [show Session.catchUp _ = _ from caught]
    dsimp only
    rw [written]
  · exact ⟨idle.phase, idle.pending, idle.reply⟩
  · exact ⟨follows.accepting.writes, follows.accepting.flushes⟩
  · exact follows.order.trans h.order
  · exact follows.maxSeats
  · exact left
  · exact h.reachable.answer _ _ m

/-- Over the wire a request is answered as it is by the store at hand; the reply is received and
read to its last byte. -/
theorem desk_of_serves {maxSeats : UInt64} {l : Link} {store : Store} (h : l.Serves maxSeats store)
    {m : Request} (going : m ≠ .quit) (fits : m.Fits maxSeats) :
    ∃ result l', desk m l = (.ok result, l') ∧ (Store.desk m store).1 = .ok result ∧
      l'.Serves maxSeats (Store.desk m store).2 := by
  obtain ⟨result, reply, at_hand, replied, received, -⟩ :=
    answer_eq_desk h.reachable.sound l.session.id l.order going
  obtain ⟨l', posted, order, gives, serves⟩ := post_of_serves h going fits replied
  rw [← List.append_nil reply.bytes] at gives
  obtain ⟨inbox, hread, empty⟩ := received true l'.inbox [] [] gives
  rw [at_hand]
  rw [← order] at hread
  refine ⟨result, { l' with inbox }, ?_, rfl, serves inbox empty⟩
  unfold desk
  rw [posted]
  dsimp only
  unfold read Attempt.within
  rw [show m.decodeResult l'.order l'.inbox = _ from hread]

/-- The link and the store at hand cannot be told apart by requests that fit the session. -/
theorem simulates_store (maxSeats : UInt64) :
    Desk.Simulates desk Store.desk (Serves maxSeats) fun m => m ≠ .quit ∧ m.Fits maxSeats := by
  rintro m l store ⟨going, fits⟩ serves
  obtain ⟨result, l', sent, at_hand, after⟩ := desk_of_serves serves going fits
  rw [sent, at_hand]
  exact ⟨rfl, after⟩

end Link

omit [Platform] in
/-- A command asks for the same as the request that it makes. -/
theorem Command.seatCount_of_request? {c : Command} {m : Request} (h : c.request? = some m) :
    m ≠ .quit ∧ m.seatCount = c.seatCount := by
  cases c with
  | create | reserve | view | list =>
    cases h
    exact ⟨Request.noConfusion, rfl⟩
  | wait | quit | help | invalid | empty | finish => cases h

/-- There is memory for each request of a script if there is for one of the most seats. -/
theorem ScriptReader.Reads.memory {r : ScriptReader} {c : Command} (h : r.Reads c)
    (memory : Memory.refusal? r.maxSeats.toNat Request.seatWidth = none) :
    Memory.refusal? (c.seatCount * Request.seatWidth) 1 = none := by
  refine Memory.refusal?_of_le memory ?_
  rw [Nat.mul_one]
  exact Nat.mul_le_mul_right _ h.seatCount_le

/-- A job is done over the wire as it is with the store at hand: it ends the same way, has written
and said the same, and leaves the same store.  Each reply is understood, and read to its last
byte. -/
theorem Job.run_link {store : Store} (reachable : store.Reachable) (id : Int32) (order : ByteOrder)
    {maxSeats : UInt64} {sink : Sink} (accepting : sink.Accepting) (unused : sink.deliveries = [])
    {reader : ScriptReader} (few : reader.maxSeats ≤ maxSeats)
    (memory : ∀ c, reader.Reads c → Memory.refusal? (c.seatCount * Request.seatWidth) 1 = none)
    (record : JobRecord) :
    let session : Session := { id, order, maxSeats, store, source := [], sink }
    let remote : Job Link := { office := { session, order }, reader, record }
    let home : Job Store := { office := store, reader, record }
    (remote.run Link.desk).1 = (home.run Store.desk).1 ∧
    (remote.run Link.desk).2.record = (home.run Store.desk).2.record ∧
    (remote.run Link.desk).2.office.session.store = (home.run Store.desk).2.office ∧
    ∀ j c m, remote.Reaches Link.desk j → j.reader.next.1 = .ok c → c.request? = some m →
      ∃ answer l, Link.desk m j.office = (.ok answer, l) ∧ l.inbox.bytes = [] := by
  intro session remote home
  have sim := Link.simulates_store maxSeats
  have asks : reader.Asks fun m => m ≠ .quit ∧ m.Fits maxSeats := by
    intro c m hc hm
    obtain ⟨going, same⟩ := Command.seatCount_of_request? hm
    have listed := hc.seatCount_le
    have room := UInt64.le_iff_toNat_le.1 few
    refine ⟨going, ?_, ?_⟩
    · omega
    · rw [same]
      exact memory c hc
  have same : Job.Alike (Link.Serves maxSeats) remote home := by
    refine ⟨?_, rfl, rfl⟩
    exact ⟨rfl, ⟨rfl, rfl, rfl⟩, accepting, unused, gives_nil true [], gives_nil true [], rfl, rfl,
      rfl, reachable⟩
  obtain ⟨results, after⟩ := Job.run_of_simulates sim asks same
  refine ⟨results, after.record, after.office.holds, ?_⟩
  intro j c m reached hc hm
  obtain ⟨asks, k, -, same⟩ := Job.reaches_of_simulates sim asks same reached
  rcases hnext : j.reader.next with ⟨next, reader'⟩
  rw [hnext] at hc
  obtain rfl : next = .ok c := hc
  obtain ⟨going, fits⟩ := asks c m (ScriptReader.reads_of_next hnext) hm
  obtain ⟨answer, l, sent, -, serves⟩ := Link.desk_of_serves same.office going fits
  exact ⟨answer, l, sent, serves.inbox.bytes_eq⟩

end

attribute [local instance] Platform.x86_64 in
/-- A job with a line of each kind, taken to a session whose replies come in pieces: the second of two
seats is shown as sold, and there is no event 8 to show. -/
theorem Job.run_link_in_pieces :
    let reader : ScriptReader :=
      { rest := Text.Utf8.encode
          "CREATE 7 1 2\nRESERVE 7 [(1,2)]\nSHOW 7\nSHOW 8\nLIST\nWAIT\nQUIT\n"
        maxSeats := 2 }
    let session : Session :=
      { id := 3, order := .big, maxSeats := 5, store := .empty 9 0, source := []
        sink := { writes := [.takes 1, .interrupted, .takes 2] } }
    let remote : Job Link := { office := { session, order := .big }, reader }
    (remote.run Link.desk).1 = .ok { requests := 5, failures := 1, invalid := 1 } ∧
    (remote.run Link.desk).2.record.out.written = Text.Utf8.encode "0 1\nEvent: 7\n" ∧
    (remote.run Link.desk).2.office.session.store =
      { events := [⟨7, 1, 2, #[0, 1], 1⟩], maxEventSeats := 9 } ∧
    ∀ j c m, remote.Reaches Link.desk j → j.reader.next.1 = .ok c → c.request? = some m →
      ∃ answer l, Link.desk m j.office = (.ok answer, l) ∧ l.inbox.bytes = [] := by
  intro reader session remote
  let home : Job Store := { office := .empty 9 0, reader }
  have accepting : session.sink.Accepting := ⟨by decide, by decide⟩
  have few : reader.maxSeats ≤ 5 := by decide
  obtain ⟨ended, record, store, understood⟩ :=
    Job.run_link (.empty 9 0) 3 .big accepting rfl few (fun _ hc => hc.memory (by decide)) {}
  have summary : (home.run Store.desk).1 = .ok { requests := 5, failures := 1, invalid := 1 } := by
    decide +kernel
  have written : (home.run Store.desk).2.record.out.written =
      Text.Utf8.encode "0 1\nEvent: 7\n" := by
    decide +kernel
  have left : (home.run Store.desk).2.office =
      { events := [⟨7, 1, 2, #[0, 1], 1⟩], maxEventSeats := 9 } := by
    decide +kernel
  refine ⟨ended.trans summary, ?_, store.trans left, understood⟩
  rw [← written]
  exact congrArg (·.out.written) record

end BoxOffice
