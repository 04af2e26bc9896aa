import BoxOffice.Proofs.Session.Hearing
/-!
# Sessions item by item

A client may send requests, reservations of too many seats, bytes that begin nothing and opcodes that
have no place in a session.  However these `Item`s come in pieces, a session tells them apart: it
replies to each by itself, with the store that the requests before it have left
(`Session.run_items`).  It ends where the stream does, or where the client quits, and then leaves
what follows alone.
-/

namespace BoxOffice

open Source

/-- One thing that a client may send. -/
inductive Item where
  | request (m : Request)
  /-- A reservation of more seats than the session takes. -/
  | oversized (id : UInt32) (seats : List Seat)
  /-- A byte that is no opcode. -/
  | junk (b : UInt8)
  /-- The opcode of an announcement, without the announcement. -/
  | setup

namespace Item

variable [Platform]

def encode (order : ByteOrder) : Item → List UInt8
  | .request m => m.encode order
  | .oversized id seats => (Request.reserve id seats).encode order
  | .junk b => [b]
  | .setup => [Opcode.setup.byte]

/-- The item is what it is called, to a session that takes `maxSeats` seats. -/
def Valid (maxSeats : UInt64) : Item → Prop
  | .request m => m ≠ .quit ∧ m.seatCount ≤ maxSeats.toNat
  | .oversized _ seats =>
    maxSeats.toNat < seats.length ∧ Request.Countable seats
  | .junk b => Opcode.ofByte? b = none
  | .setup => True

instance (maxSeats : UInt64) : (item : Item) → Decidable (item.Valid maxSeats)
  | .request _ | .oversized .. => inferInstanceAs (Decidable (_ ∧ _))
  | .junk _ => inferInstanceAs (Decidable (_ = _))
  | .setup => inferInstanceAs (Decidable True)

/-- The reply that is earned. -/
def reply? (session : Int32) (order : ByteOrder) (store : Store) : Item → Option Reply
  | .request m => (answer session order store m).reply
  | .oversized .. => some { outcome := .failed, bytes := Outcome.failed.encode order }
  | .junk _ | .setup => none

/-- What is carried out. -/
def request? : Item → Option Request
  | .request m => some m
  | _ => none

/-- It has an opcode. -/
def isCounted : Item → Bool
  | .junk _ => false
  | _ => true

/-- The store after the requests among some items, carried out in order. -/
def storeAfter (session : Int32) (order : ByteOrder) (store : Store) (items : List Item) : Store :=
  (items.filterMap request?).foldl (fun store m => (answer session order store m).store) store

/-- The replies to items, each with the store that the items before it have left. -/
def replies (session : Int32) (order : ByteOrder) : Store → List Item → List Reply
  | _, [] => []
  | store, item :: items =>
    (item.reply? session order store).toList ++
      replies session order (storeAfter session order store [item]) items

/-! ## What is heard of an item -/

/-- What a session that takes `maxSeats` seats hears, if anything. -/
def heard (maxSeats : UInt64) : Item → List Heard
  | .request m => [⟨m.opcode, .ok m⟩]
  | .oversized _ seats =>
    [⟨.reserve, .error (.protocol (.tooManySeats (UInt64.ofNat seats.length) maxSeats))⟩]
  | .junk _ => []
  | .setup => [⟨.setup, .error (.protocol .setupInSession)⟩]

variable {maxSeats : UInt64}

/-- An item is heard alone: the stream goes on with what follows it. -/
theorem hears {order : ByteOrder} {item : Item} (valid : item.Valid maxSeats)
    (memory : Memory.refusal? maxSeats.toNat Request.seatWidth = none)
    {source rest : Source} {more : List UInt8}
    (gives : Gives false source (item.encode order ++ more) rest) :
    ∃ t, Gives false t more rest ∧ ∀ {others : List Heard} {ending : Ending} {left : Source},
      Hears order maxSeats t others ending left →
      Hears order maxSeats source (item.heard maxSeats ++ others) ending left := by
  cases item with
  | request m =>
    obtain ⟨going, few⟩ := valid
    obtain ⟨t, hb, body⟩ := byte?_of_gives gives
    obtain ⟨u, hbody, next⟩ :=
      Request.consumes_decode order (Request.fits_of_seatCount few memory) false t more rest body
    exact ⟨u, next, fun later => .next (h := ⟨m.opcode, .ok m⟩) hb m.opcode.ofByte_byte hbody
      (Heard.ending?_request.2 going) later⟩
  | oversized id seats =>
    obtain ⟨many, countable⟩ := valid
    obtain ⟨t, hb, body⟩ := byte?_of_gives gives
    obtain ⟨u, hbody, next⟩ :=
      Request.consumes_decode_oversized order id many countable false t more rest body
    exact ⟨u, next, fun later => .next (h := ⟨.reserve, _⟩) hb (Opcode.ofByte_byte .reserve) hbody
      (Heard.ending?_fault.2 rfl) later⟩
  | junk b =>
    obtain ⟨t, hb, next⟩ := byte?_of_gives gives
    have hop : Opcode.ofByte b = .error (.protocol (.unknownOpcode b)) := by
      unfold Opcode.ofByte
      rw [show Opcode.ofByte? b = none from valid]
    exact ⟨t, next, fun later => .dropped hb hop later⟩
  | setup =>
    obtain ⟨t, hb, next⟩ := byte?_of_gives gives
    exact ⟨t, next, fun later => .next (h := ⟨.setup, _⟩) hb (Opcode.ofByte_byte .setup) rfl
      (Heard.ending?_fault.2 rfl) later⟩

/-- Items one after the other are heard one after the other. -/
theorem hears_all {order : ByteOrder} {items : List Item} (valid : ∀ i ∈ items, i.Valid maxSeats)
    (memory : Memory.refusal? maxSeats.toNat Request.seatWidth = none)
    {source rest : Source} {more : List UInt8}
    (gives : Gives false source (items.flatMap (·.encode order) ++ more) rest) :
    ∃ t, Gives false t more rest ∧ ∀ {others : List Heard} {ending : Ending} {left : Source},
      Hears order maxSeats t others ending left →
      Hears order maxSeats source (items.flatMap (·.heard maxSeats) ++ others) ending left := by
  induction items generalizing source with
  | nil => exact ⟨source, gives, fun later => later⟩
  | cons item items ih =>
    obtain ⟨first, others⟩ := List.forall_mem_cons.1 valid
    rw [List.flatMap_cons, List.append_assoc] at gives
    obtain ⟨t, next, hears_first⟩ := hears first memory gives
    obtain ⟨u, left, hears_others⟩ := ih others next
    refine ⟨u, left, fun later => ?_⟩
    rw [List.flatMap_cons, List.append_assoc]
    exact hears_first (hears_others later)

/-! ## What comes of items -/

theorem serveAll_heard (session : Int32) (order : ByteOrder) (store : Store) (item : Item) :
    serveAll session order store (item.heard maxSeats) =
      ((item.reply? session order store).toList, storeAfter session order store [item]) := by
  cases item with
  | request m => exact Prod.ext (List.append_nil _) rfl
  | oversized | junk | setup => rfl

theorem serveAll_items (session : Int32) (order : ByteOrder) (store : Store) (items : List Item) :
    serveAll session order store (items.flatMap (·.heard maxSeats)) =
      (replies session order store items, storeAfter session order store items) := by
  induction items generalizing store with
  | nil => rfl
  | cons item items ih =>
    have stores : storeAfter session order (storeAfter session order store [item]) items =
        storeAfter session order store (item :: items) := by
      cases item <;> rfl
    rw [List.flatMap_cons, serveAll_append, serveAll_heard, ih, stores]
    rfl

omit [Platform] in
theorem length_heard (items : List Item) :
    (items.flatMap (·.heard maxSeats)).length = items.countP (·.isCounted) := by
  induction items with
  | nil => rfl
  | cons item items ih =>
    rw [List.flatMap_cons, List.length_append, ih, List.countP_cons, Nat.add_comm]
    cases item <;> rfl

end Item

section

variable [Platform]

/-- A session hears the items that its client sends, however they come in pieces, and nothing else:
it replies to them in order and carries the requests among them out.  It is over when the stream is,
or when the client quits; what follows then is left on the stream. -/
theorem Session.run_items {s : Session} (hs : s.Idle) (accepting : s.sink.Accepting)
    (memory : Memory.refusal? s.maxSeats.toNat Request.seatWidth = none) {items : List Item}
    (valid : ∀ i ∈ items, i.Valid s.maxSeats) :
    (∀ rest left, Gives false s.source (items.flatMap (·.encode s.order)) rest →
      Source.byte? rest = (.ok none, left) →
      ∃ t, s.run = (.peerClosed, t) ∧ t.source = left ∧
        t.store = Item.storeAfter s.id s.order s.store items ∧
        s.Follows t (Item.replies s.id s.order s.store items) (items.countP (·.isCounted))) ∧
    (∀ more rest,
      Gives false s.source (items.flatMap (·.encode s.order) ++ Opcode.quit.byte :: more) rest →
      ∃ t, s.run = (.quit, t) ∧ Gives false t.source more rest ∧
        t.store = Item.storeAfter s.id s.order s.store items ∧
        s.Follows t (Item.replies s.id s.order s.store items)
          (items.countP (·.isCounted) + 1)) := by
  constructor
  · intro rest left gives closed
    rw [← List.append_nil (items.flatMap _)] at gives
    obtain ⟨t, next, hears⟩ := Item.hears_all valid memory gives
    have last : Hears s.order s.maxSeats t [] .peerClosed left :=
      .closed ((byte?_of_gives_nil next).trans closed)
    obtain ⟨u, run, ⟨source, store⟩, follows⟩ := run_of_hears (hears last) hs accepting rfl rfl rfl
    rw [List.append_nil, Item.serveAll_items] at store follows
    rw [Item.length_heard] at follows
    exact ⟨u, run, source, store, follows⟩
  · intro more rest gives
    obtain ⟨t, next, hears⟩ := Item.hears_all valid memory gives
    obtain ⟨v, hb, left⟩ := byte?_of_gives next
    have last : Hears s.order s.maxSeats t [⟨.quit, .ok .quit⟩] .quit v :=
      .last hb (Opcode.ofByte_byte .quit) rfl rfl
    obtain ⟨u, run, ⟨source, store⟩, follows⟩ := run_of_hears (hears last) hs accepting rfl rfl rfl
    have quits : ∀ store, serveAll s.id s.order store [⟨.quit, .ok .quit⟩] = ([], store) :=
      fun _ => rfl
    rw [serveAll_append, Item.serveAll_items, quits] at store follows
    dsimp only at follows
    rw [List.append_nil, List.length_append, Item.length_heard] at follows
    rw [← source] at left
    exact ⟨u, run, left, store, follows⟩

end

attribute [local instance] Platform.x86_64 in
/-- One item of each kind and two more requests, on a stream that ends after them and on one with more
behind `QUIT`: there are four replies, and the third says that the request failed. -/
theorem Session.run_items_of_each_kind :
    let items : List Item :=
      [.request (.create 7 1 2), .junk 0, .request (.reserve 7 [⟨1, 2⟩]),
        .oversized 7 [⟨1, 1⟩, ⟨1, 2⟩], .setup, .request (.view 7)]
    let bytes := items.flatMap (·.encode .little)
    let store : Store := { events := [⟨7, 1, 2, #[0, 1], 1⟩], maxEventSeats := 9 }
    let replies : List (List UInt8) :=
      [[0, 0, 0, 0], [0, 0, 0, 0], [1, 0, 0, 0],
        [0, 0, 0, 0, 1, 0, 0, 0, 0, 0, 0, 0, 2, 0, 0, 0, 0, 0, 0, 0, 0, 0, 0, 0, 1, 0, 0, 0]]
    let s (source : Source) : Session :=
      { id := 3, order := .little, maxSeats := 1, store := .empty 9 0, source }
    (∃ t, (s [.interrupted, .data bytes, .closed]).run = (.peerClosed, t) ∧ t.source = [] ∧
      t.store = store ∧ t.sink.written = replies.flatten ∧ t.requests = 5 ∧ t.failures = 1) ∧
    ∃ t, (s [.data (bytes ++ [0x32, 0xFF])]).run = (.quit, t) ∧ Gives false t.source [0xFF] [] ∧
      t.store = store ∧ t.sink.written = replies.flatten ∧ t.requests = 6 ∧ t.failures = 1 := by
  intro items bytes store replies s
  have valid : ∀ i ∈ items, i.Valid 1 := by decide
  have left : Item.storeAfter 3 .little (.empty 9 0) items = store := by decide +kernel
  have earned : (Item.replies 3 .little (.empty 9 0) items).flatMap (·.bytes) = replies.flatten := by
    decide +kernel
  have failed : (Item.replies 3 .little (.empty 9 0) items).countP (!·.outcome.isDone) = 1 := by
    decide +kernel
  constructor
  · obtain ⟨t, run, source, stays, follows⟩ :=
      (Session.run_items (s := s [.interrupted, .data bytes, .closed]) ⟨rfl, rfl, rfl⟩
        Sink.accepting_nil (by decide) valid).1 [.closed] []
        (gives_data false bytes _).interrupted rfl
    exact ⟨t, run, source, stays.trans left, follows.written.trans earned, follows.requests,
      follows.failures.trans (by rw [failed])⟩
  · obtain ⟨t, run, source, stays, follows⟩ :=
      (Session.run_items (s := s [.data (bytes ++ [0x32, 0xFF])]) ⟨rfl, rfl, rfl⟩
        Sink.accepting_nil (by decide) valid).2 [0xFF] [] (gives_data false _ [])
    exact ⟨t, run, source, stays.trans left, follows.written.trans earned, follows.requests,
      follows.failures.trans (by rw [failed])⟩

end BoxOffice
