import BoxOffice.Proofs.Session.Items
import BoxOffice.Proofs.Wire.Breaking
/-!
# Sessions that are cut off

A client's stream may end anywhere: between two items, after the opcode of a request, within a field,
within the seats of a reservation or of one that is thrown away.  What has come by then is some whole
items, the most there are (`Item.Complete`), and perhaps part of the next.  A request of which a part is
missing is never decoded (`Request.breaks_decode`), so the session does with the whole items what it
does when nothing follows them, and the part brings it to its end (`Session.run_cut`).
-/

namespace BoxOffice

open Source

/-! ## Items that are cut off -/

namespace Item

variable {order : ByteOrder} {maxSeats : UInt64}

variable [Platform]

/-- After an opcode without all that belongs to it the session is told that the stream broke. -/
theorem hears_broken {op : Opcode} {body part : List UInt8} {source rest left : Source}
    (breaks : Breaks (Request.decode order maxSeats op) body) (initial : part <+: op.byte :: body)
    (proper : part ≠ op.byte :: body) (begun : part ≠ []) (gives : Gives false source part rest)
    (closed : byte? rest = (.ok none, left)) :
    ∃ got wanted, got < wanted ∧
      Hears order maxSeats source [⟨op, .error (.transport (.closedAfter got wanted))⟩]
        (.broken (.transport (.closedAfter got wanted))) left := by
  cases part with
  | nil => exact absurd rfl begun
  | cons b part =>
    obtain ⟨rfl, initial'⟩ := List.cons_prefix_cons.1 initial
    have proper' : part ≠ body := fun same => proper (by rw [same])
    obtain ⟨t, hb, gives'⟩ := byte?_of_gives gives
    obtain ⟨got, wanted, short, run⟩ := breaks false t part rest left initial' proper' gives' closed
    exact ⟨got, wanted, short, .last (h := ⟨op, _⟩) hb op.ofByte_byte run rfl⟩

/-- An item that has begun and is not whole breaks the session off. -/
theorem hears_cut {item : Item} (valid : item.Valid maxSeats)
    (memory : Memory.refusal? maxSeats.toNat Request.seatWidth = none)
    {part : List UInt8} {source rest left : Source} (initial : part <+: item.encode order)
    (proper : part ≠ item.encode order) (begun : part ≠ []) (gives : Gives false source part rest)
    (closed : byte? rest = (.ok none, left)) :
    ∃ op got wanted, got < wanted ∧
      Hears order maxSeats source [⟨op, .error (.transport (.closedAfter got wanted))⟩]
        (.broken (.transport (.closedAfter got wanted))) left := by
  cases item with
  | request m =>
    obtain ⟨-, few⟩ := valid
    have breaks := Request.breaks_decode order (Request.fits_of_seatCount few memory)
    exact ⟨m.opcode, hears_broken breaks initial proper begun gives closed⟩
  | oversized id seats =>
    obtain ⟨many, countable⟩ := valid
    have breaks : Breaks (Request.decode order maxSeats .reserve) _ :=
      Request.breaks_reserve order id countable fun few => absurd few (Nat.not_le.2 many)
    exact ⟨.reserve, hears_broken breaks initial proper begun gives closed⟩
  | setup => exact ⟨.setup, hears_broken (breaks_nil _) initial proper begun gives closed⟩
  | junk b =>
    -- a single byte has no part
    rcases List.prefix_cons_iff.1 initial with none | ⟨others, rfl, empty⟩
    · exact absurd none begun
    · rw [List.prefix_nil.1 empty] at proper
      exact absurd rfl proper

/-- Of the items, `whole` are those that come first and are whole in `piece`. -/
structure Complete (order : ByteOrder) (items : List Item) (piece : List UInt8)
    (whole : List Item) : Prop where
  initial : whole <+: items
  inside : whole.flatMap (·.encode order) <+: piece
  longest : ∀ others, others <+: items → others.flatMap (·.encode order) <+: piece →
    others <+: whole

theorem Complete.cons {items whole : List Item} {piece : List UInt8}
    (h : Complete order items piece whole) (item : Item) :
    Complete order (item :: items) (item.encode order ++ piece) (item :: whole) where
  initial := List.cons_prefix_cons.2 ⟨rfl, h.initial⟩
  inside := by
    rw [List.flatMap_cons]
    exact (List.prefix_append_right_inj _).2 h.inside
  longest others first inside := by
    cases others with
    | nil => exact List.nil_prefix
    | cons other others =>
      obtain ⟨rfl, first'⟩ := List.cons_prefix_cons.1 first
      rw [List.flatMap_cons] at inside
      have inside' := (List.prefix_append_right_inj _).1 inside
      exact List.cons_prefix_cons.2 ⟨rfl, h.longest others first' inside'⟩

/-- They are known by the first item that is not whole in the piece. -/
theorem Complete.eq_of_next {whole others more : List Item} {item : Item} {piece : List UInt8}
    (h : Complete order (others ++ item :: more) piece whole)
    (inside : others.flatMap (·.encode order) <+: piece)
    (beyond : ¬ (others ++ [item]).flatMap (·.encode order) <+: piece) : whole = others := by
  obtain ⟨longer, rfl⟩ := h.longest others (List.prefix_append ..) inside
  have initial := (List.prefix_append_right_inj others).1 h.initial
  cases longer with
  | nil => exact List.append_nil others
  | cons next longer =>
    obtain ⟨rfl, -⟩ := List.cons_prefix_cons.1 initial
    have within := h.inside
    rw [List.append_cons, List.flatMap_append] at within
    exact absurd ((List.prefix_append ..).trans within) beyond

/-- A piece of some items is whole items and, unless it ends with the last of them, part of the next. -/
theorem exists_complete {items : List Item} {piece : List UInt8}
    (cut : piece <+: items.flatMap (·.encode order)) :
    ∃ whole part, Complete order items piece whole ∧
      piece = whole.flatMap (·.encode order) ++ part ∧
      (part ≠ [] → ∃ item ∈ items, part <+: item.encode order ∧ part ≠ item.encode order) := by
  induction items generalizing piece with
  | nil =>
    obtain rfl : piece = [] := List.prefix_nil.1 cut
    refine ⟨[], [], ⟨List.prefix_rfl, List.prefix_rfl, ?_⟩, rfl, fun some => absurd rfl some⟩
    exact fun others initial _ => initial
  | cons item items ih =>
    rw [List.flatMap_cons] at cut
    by_cases enough : item.encode order <+: piece
    · obtain ⟨piece, rfl⟩ := enough
      obtain ⟨whole, part, complete, split, next⟩ := ih ((List.prefix_append_right_inj _).1 cut)
      refine ⟨item :: whole, part, complete.cons item, ?_, fun some => ?_⟩
      · rw [List.flatMap_cons, List.append_assoc, ← split]
      · obtain ⟨other, mem, broken⟩ := next some
        exact ⟨other, List.mem_cons_of_mem _ mem, broken⟩
    · have within : piece <+: item.encode order :=
        (List.prefix_or_prefix_of_prefix cut (List.prefix_append ..)).resolve_right enough
      refine ⟨[], piece, ⟨List.nil_prefix, List.nil_prefix, ?_⟩, rfl, fun _ => ?_⟩
      · intro others first inside
        cases others with
        | nil => exact List.prefix_rfl
        | cons other others =>
          obtain ⟨rfl, -⟩ := List.cons_prefix_cons.1 first
          rw [List.flatMap_cons] at inside
          exact absurd ((List.prefix_append ..).trans inside) enough
      · refine ⟨item, List.mem_cons_self, within, fun same => ?_⟩
        exact enough (same ▸ List.prefix_rfl)

end Item

/-! ## Runs -/

namespace Session

section

variable [Platform]

/-- A session that has heard some items goes on with what follows them. -/
theorem run_after_items {s : Session} (hs : s.Idle) (accepting : s.sink.Accepting)
    (memory : Memory.refusal? s.maxSeats.toNat Request.seatWidth = none) {items : List Item}
    (valid : ∀ i ∈ items, i.Valid s.maxSeats) {more : List UInt8} {rest : Source}
    (gives : Gives false s.source (items.flatMap (·.encode s.order) ++ more) rest) :
    ∃ t, Gives false t more rest ∧
      ∀ {others : List Heard} {ending : Ending} {left : Source},
        Hears s.order s.maxSeats t others ending left →
        (∀ store, serveAll s.id s.order store others = ([], store)) →
        ∃ u, s.run = (ending, u) ∧ u.source = left ∧
          u.store = Item.storeAfter s.id s.order s.store items ∧
          s.Follows u (Item.replies s.id s.order s.store items)
            (items.countP (·.isCounted) + others.length) := by
  obtain ⟨t, next, hears⟩ := Item.hears_all valid memory gives
  refine ⟨t, next, fun {others ending left} later silent => ?_⟩
  obtain ⟨u, run, ⟨source, store⟩, follows⟩ := run_of_hears (hears later) hs accepting rfl rfl rfl
  rw [serveAll_append, Item.serveAll_items, silent] at store follows
  dsimp only at follows
  rw [List.append_nil, List.length_append, Item.length_heard] at follows
  exact ⟨u, run, source, store, follows⟩

theorem run_whole_items {s : Session} (hs : s.Idle) (accepting : s.sink.Accepting)
    (memory : Memory.refusal? s.maxSeats.toNat Request.seatWidth = none) {items : List Item}
    (valid : ∀ i ∈ items, i.Valid s.maxSeats) {rest left : Source}
    (gives : Gives false s.source (items.flatMap (·.encode s.order)) rest)
    (closed : byte? rest = (.ok none, left)) :
    ∃ u, s.run = (.peerClosed, u) ∧ u.source = left ∧
      u.store = Item.storeAfter s.id s.order s.store items ∧
      s.Follows u (Item.replies s.id s.order s.store items) (items.countP (·.isCounted)) := by
  rw [← List.append_nil (items.flatMap _)] at gives
  obtain ⟨t, gives', go_on⟩ := run_after_items hs accepting memory valid gives
  have last : Hears s.order s.maxSeats t [] .peerClosed left :=
    .closed ((byte?_of_gives_nil gives').trans closed)
  exact go_on last fun _ => rfl

/-- Wherever a client's stream is cut off, the session does what it would do if the client had sent the
whole items alone: the same is left in the store, the same replies are sent, and as many of them say that
a request failed.  It ends as there if it was cut off between two items.  Otherwise the stream broke, and
the request that was cut off has been counted and nothing else. -/
theorem run_cut {s : Session} (hs : s.Idle) (accepting : s.sink.Accepting)
    (memory : Memory.refusal? s.maxSeats.toNat Request.seatWidth = none) {items : List Item}
    (valid : ∀ i ∈ items, i.Valid s.maxSeats) {piece : List UInt8}
    (cut : piece <+: items.flatMap (·.encode s.order)) {rest left : Source}
    (gives : Gives false s.source piece rest) (closed : byte? rest = (.ok none, left)) :
    ∃ whole t, Item.Complete s.order items piece whole ∧ t.source = left ∧
      (piece = whole.flatMap (·.encode s.order) ∧ s.run = (.peerClosed, t) ∧
          t.requests = s.requests + whole.countP (·.isCounted) ∨
        piece ≠ whole.flatMap (·.encode s.order) ∧
          (∃ got wanted, got < wanted ∧
            s.run = (.broken (.transport (.closedAfter got wanted)), t)) ∧
          t.requests = s.requests + whole.countP (·.isCounted) + 1) ∧
      ∀ source rest' left', Gives false source (whole.flatMap (·.encode s.order)) rest' →
        byte? rest' = (.ok none, left') →
        ∃ u, ({ s with source } : Session).run = (.peerClosed, u) ∧ t.store = u.store ∧
          t.sink.written = u.sink.written ∧ t.failures = u.failures ∧
          u.requests = s.requests + whole.countP (·.isCounted) := by
  obtain ⟨whole, part, complete, rfl, next⟩ := Item.exists_complete cut
  have valid' : ∀ i ∈ whole, i.Valid s.maxSeats := fun i hi =>
    valid i (complete.initial.subset hi)
  -- what a run on the whole items comes to is known for every stream that gives just these
  have alone {t : Session} {asked : Nat}
      (store : t.store = Item.storeAfter s.id s.order s.store whole)
      (follows : s.Follows t (Item.replies s.id s.order s.store whole) asked) (source rest' left')
      (gives' : Gives false source (whole.flatMap (·.encode s.order)) rest')
      (closed' : byte? rest' = (.ok none, left')) :
      ∃ u, ({ s with source } : Session).run = (.peerClosed, u) ∧ t.store = u.store ∧
        t.sink.written = u.sink.written ∧ t.failures = u.failures ∧
        u.requests = s.requests + whole.countP (·.isCounted) := by
    have idle : ({ s with source } : Session).Idle := ⟨hs.phase, hs.pending, hs.reply⟩
    obtain ⟨u, run, -, store', follows'⟩ :=
      run_whole_items idle accepting memory valid' gives' closed'
    exact ⟨u, run, store.trans store'.symm, follows.written.trans follows'.written.symm,
      follows.failures.trans follows'.failures.symm, follows'.requests⟩
  by_cases begun : part = []
  · subst begun
    rw [List.append_nil] at gives
    obtain ⟨t, run, source, store, follows⟩ :=
      run_whole_items hs accepting memory valid' gives closed
    exact ⟨whole, t, complete, source, .inl ⟨List.append_nil _, run, follows.requests⟩,
      alone store follows⟩
  · obtain ⟨item, mem, initial, proper⟩ := next begun
    obtain ⟨v, gives', go_on⟩ := run_after_items hs accepting memory valid' gives
    obtain ⟨op, got, wanted, short, last⟩ :=
      Item.hears_cut (valid item mem) memory initial proper begun gives' closed
    obtain ⟨t, run, source, store, follows⟩ := go_on last fun _ => rfl
    have more : whole.flatMap (·.encode s.order) ++ part ≠ whole.flatMap (·.encode s.order) :=
      fun same => begun (List.append_right_eq_self.1 same)
    exact ⟨whole, t, complete, source,
      .inr ⟨more, ⟨got, wanted, short, run⟩, follows.requests⟩, alone store follows⟩

end

attribute [local instance] Platform.x86_64 in
/-- An event is put on sale, and the stream ends within the rows of the seats that are asked for. -/
theorem run_cut_within_seats :
    let whole : List Item := [.request (.create 7 1 2), .junk 0]
    let next : Item := .request (.reserve 7 [⟨1, 1⟩, ⟨1, 2⟩])
    let bytes := whole.flatMap (·.encode .big)
    let s (source : Source) : Session :=
      { id := 3, order := .big, maxSeats := 2, store := .empty 9 0, source }
    let cut := s [.data bytes, .interrupted, .data ((next.encode .big).take 20), .closed]
    ∃ got wanted t u, got < wanted ∧
      cut.run = (.broken (.transport (.closedAfter got wanted)), t) ∧ t.requests = 2 ∧
      (s [.data bytes]).run = (.peerClosed, u) ∧ t.store = u.store ∧
      t.sink.written = u.sink.written ∧ u.requests = 1 := by
  intro whole next bytes s cut
  let part := (next.encode .big).take 20
  have valid : ∀ i ∈ whole ++ [next], i.Valid 2 := by decide
  have bytes_next : (whole ++ [next]).flatMap (·.encode .big) = bytes ++ next.encode .big := by
    rw [List.flatMap_append, List.flatMap_singleton]
  have initial : bytes ++ part <+: (whole ++ [next]).flatMap (·.encode .big) := by
    rw [bytes_next]
    exact (List.prefix_append_right_inj bytes).2 (List.take_prefix ..)
  have gives : Gives false cut.source (bytes ++ part) [.closed] :=
    Gives.append (gives_data false bytes _) (gives_data false part _).interrupted
  have closed : byte? [.closed] = (.ok none, []) := rfl
  obtain ⟨others, t, complete, -, ended, alone⟩ :=
    run_cut (s := cut) ⟨rfl, rfl, rfl⟩ Sink.accepting_nil (by decide) valid initial gives closed
  obtain rfl : others = whole := by
    refine complete.eq_of_next (List.prefix_append ..) ?_
    rw [bytes_next, List.prefix_append_right_inj]
    intro within
    exact absurd within.length_le (by decide)
  obtain ⟨u, run, store, written, -, counted⟩ := alone _ [] [] (gives_data false bytes []) rfl
  rcases ended with ⟨same, -⟩ | ⟨-, ⟨got, wanted, short, broken⟩, requests⟩
  · exact absurd (List.append_right_eq_self.1 same) (by decide)
  · exact ⟨got, wanted, t, u, short, broken, requests, run, store, written, counted⟩

end Session

end BoxOffice
