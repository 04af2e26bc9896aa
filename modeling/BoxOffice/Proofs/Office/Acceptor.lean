import BoxOffice.Office.Acceptor
import BoxOffice.Proofs.Wire.Setup
/-!
# Who is accepted

All clients announce themselves on one stream.  A `SetupItem` is what may come on it: an announcement,
one whose names cannot be read, or a byte that begins none; nothing else can (`SetupItem.exists_items`).
The acceptor takes each off the stream as a whole, no more and no less (`SetupItem.consumes_next`), so
that none is heard in another's bytes.

Main statement: `Acceptor.receive_items`.
-/

namespace BoxOffice

open Source

/-- One thing that may come to the acceptor. -/
inductive SetupItem where
  /-- An announcement, with the bytes of its two fields. -/
  | client (m : Setup) (request response : List UInt8)
  /-- An announcement that lacks a name. -/
  | illegible (request response : List UInt8)
  /-- A byte that begins no announcement. -/
  | other (b : UInt8)

namespace SetupItem

def bytes : SetupItem → List UInt8
  | .client _ request response | .illegible request response =>
    Opcode.setup.byte :: (request ++ response)
  | .other b => [b]

/-- It is what it is called. -/
def Valid : SetupItem → Prop
  | .client m request response =>
    (request.length = nameWidth ∧ response.length = nameWidth) ∧
      HoldsText request m.request ∧ HoldsText response m.response
  | .illegible request response =>
    (request.length = nameWidth ∧ response.length = nameWidth) ∧
      (Illegible request ∨ Illegible response)
  | .other b => b ≠ Opcode.setup.byte

/-- Who is to be accepted. -/
def client? : SetupItem → Option Setup
  | .client m _ _ => some m
  | .illegible .. | .other _ => none

end SetupItem

namespace Visit

/-- Who is accepted. -/
def client? : Visit → Option Setup
  | .client m => some m
  | .closed | .malformed _ | .stray _ | .noise _ => none

variable [Platform] {order : ByteOrder} {b : UInt8} {bs : List UInt8}

/-- A byte begins an announcement, or it is passed over. -/
theorem begun_cases (order : ByteOrder) (b : UInt8) :
    (b = Opcode.setup.byte ∧ begun order b = announced order) ∨
      (b ≠ Opcode.setup.byte ∧ ∃ v, begun order b = pure v ∧ v ≠ .closed ∧ v.client? = none) := by
  unfold begun
  cases begins : Opcode.ofByte? b with
  | none =>
    refine .inr ⟨?_, .noise b, rfl, nofun, rfl⟩
    rintro rfl
    cases begins
  | some op =>
    obtain rfl := Opcode.byte_of_ofByte? begins
    cases op with
    | setup => exact .inl ⟨rfl, rfl⟩
    | quit | create | reserve | view | list =>
      exact .inr ⟨by decide, .stray _, rfl, nofun, rfl⟩

theorem consumes_next {v : Visit} (h : Consumes (begun order b) bs (.ok v)) :
    Consumes (next order) (b :: bs) (.ok v) := by
  have first : Consumes byte? [b] (.ok (some b)) :=
    fun quiet s ys rest gives => byte?_of_gives gives
  exact first.bind h

theorem consumes_announced {m : Setup} (h : Consumes (Setup.decode order) bs (.ok m)) :
    Consumes (announced order) bs (.ok (.client m)) := by
  intro quiet s ys rest gives
  obtain ⟨t, decoded, left⟩ := h quiet s ys rest gives
  refine ⟨t, ?_, left⟩
  show announced order s = _
  unfold announced
  rw [show Setup.decode order s = _ from decoded]

theorem consumes_announced_illegible {fault : Fault} (calm : fault.isTransport = false)
    (h : Consumes (Setup.decode order) bs (.error fault)) :
    Consumes (announced order) bs (.ok (.malformed fault)) := by
  intro quiet s ys rest gives
  obtain ⟨t, decoded, left⟩ := h quiet s ys rest gives
  refine ⟨t, ?_, left⟩
  show announced order s = _
  unfold announced
  rw [show Setup.decode order s = _ from decoded]
  dsimp only
  rw [calm]
  rfl

end Visit

/-- What comes to the acceptor is taken off the stream as a whole, and for what it is. -/
theorem SetupItem.consumes_next [Platform] (order : ByteOrder) {k : SetupItem} (valid : k.Valid) :
    ∃ v, Consumes (Visit.next order) k.bytes (.ok v) ∧ v ≠ .closed ∧ v.client? = k.client? := by
  cases k with
  | client m request response =>
    obtain ⟨⟨hrequest, hresponse⟩, first, second⟩ := valid
    have decodes := Setup.consumes_decode order hrequest hresponse first second
    exact ⟨.client m, Visit.consumes_next (Visit.consumes_announced decodes), nofun, rfl⟩
  | illegible request response =>
    obtain ⟨⟨hrequest, hresponse⟩, illegible⟩ := valid
    obtain ⟨cause, fails⟩ :=
      Setup.consumes_decode_illegible order hrequest hresponse illegible
    exact ⟨.malformed (.protocol cause),
      Visit.consumes_next (Visit.consumes_announced_illegible rfl fails), nofun, rfl⟩
  | other b =>
    obtain ⟨begins, -⟩ | ⟨-, v, passed, came, nobody⟩ := Visit.begun_cases order b
    · exact absurd begins valid
    · refine ⟨v, Visit.consumes_next ?_, came, nobody⟩
      rw [passed]
      exact consumes_pure v

namespace SetupItem

/-- Two fields make an announcement of one kind or the other. -/
theorem exists_announcement {request response : List UInt8} (hrequest : request.length = nameWidth)
    (hresponse : response.length = nameWidth) :
    ∃ k : SetupItem, k.Valid ∧ k.bytes = Opcode.setup.byte :: (request ++ response) := by
  rcases holdsText_or_illegible request with ⟨text, first⟩ | first
  · rcases holdsText_or_illegible response with ⟨text', second⟩ | second
    · exact ⟨.client ⟨text, text'⟩ request response, ⟨⟨hrequest, hresponse⟩, first, second⟩, rfl⟩
    · exact ⟨.illegible request response, ⟨⟨hrequest, hresponse⟩, .inr second⟩, rfl⟩
  · exact ⟨.illegible request response, ⟨⟨hrequest, hresponse⟩, .inl first⟩, rfl⟩

/-- Whatever bytes come to the acceptor are items, up to an announcement that is not whole. -/
theorem exists_items (bytes : List UInt8) :
    ∃ items : List SetupItem, (∀ k ∈ items, k.Valid) ∧
      (bytes = items.flatMap (·.bytes) ∨ ∃ part, part.length < 2 * nameWidth ∧
        bytes = items.flatMap (·.bytes) ++ Opcode.setup.byte :: part) := by
  induction hn : bytes.length using Nat.strongRecOn generalizing bytes with
  | ind n ih =>
    subst hn
    -- what follows an item is items
    have more : ∀ (k : SetupItem) (others : List UInt8), k.Valid → bytes = k.bytes ++ others →
        others.length < bytes.length → ∃ items : List SetupItem, (∀ k ∈ items, k.Valid) ∧
          (bytes = items.flatMap (·.bytes) ∨ ∃ part, part.length < 2 * nameWidth ∧
            bytes = items.flatMap (·.bytes) ++ Opcode.setup.byte :: part) := by
      intro k others valid split fewer
      obtain ⟨items, valids, whole⟩ := ih _ fewer others rfl
      refine ⟨k :: items, List.forall_mem_cons.2 ⟨valid, valids⟩, ?_⟩
      rw [split, List.flatMap_cons]
      rcases whole with rfl | ⟨part, short, rfl⟩
      · exact .inl rfl
      · exact .inr ⟨part, short, (List.append_assoc ..).symm⟩
    cases bytes with
    | nil => exact ⟨[], fun _ hk => absurd hk List.not_mem_nil, .inl rfl⟩
    | cons b bs =>
      by_cases begins : b = Opcode.setup.byte
      · subst begins
        by_cases short : bs.length < 2 * nameWidth
        · exact ⟨[], fun _ hk => absurd hk List.not_mem_nil, .inr ⟨bs, short, rfl⟩⟩
        · obtain ⟨fields, others, rfl, hfields, -⟩ :=
            exists_append_of_length
              (show bs.length = 2 * nameWidth + (bs.length - 2 * nameWidth) by omega)
          obtain ⟨request, response, rfl, hrequest, hresponse⟩ :=
            exists_append_of_length (hfields.trans (Nat.two_mul nameWidth))
          obtain ⟨k, valid, written⟩ := exists_announcement hrequest hresponse
          refine more k others valid ?_ ?_
          · rw [written]
            rfl
          · simp only [List.length_cons, List.length_append]
            omega
      · exact more (.other b) bs begins rfl (Nat.lt_succ_self _)

end SetupItem

namespace Acceptor

section

variable [Platform] {order : ByteOrder} {s rest left : Source}

/-! ## The reception -/

theorem receive_of_visit {v : Visit} (h : Visit.next order s = (.ok v, rest)) (came : v ≠ .closed) :
    receive order s =
      { receive order rest with
        clients := v.client?.toList ++ (receive order rest).clients
        notes := v.notes ++ (receive order rest).notes } := by
  rw [receive]
  split
  · rename_i found
    cases h.symm.trans found
  · rename_i found
    cases h.symm.trans found
    rw [dif_neg came]
    cases v <;> rfl

theorem receive_of_closed (h : Visit.next order s = (.ok .closed, rest)) :
    receive order s = { clients := [], notes := [], ending := .ok (), rest } := by
  rw [receive]
  split
  · rename_i found
    cases h.symm.trans found
  · rename_i found
    cases h.symm.trans found
    rw [dif_pos rfl]

theorem receive_of_fault {fault : Fault} (h : Visit.next order s = (.error fault, rest)) :
    receive order s = { clients := [], notes := [], ending := .error fault, rest } := by
  rw [receive]
  split
  · rename_i found
    cases h.symm.trans found
    rfl
  · rename_i found
    cases h.symm.trans found

/-- After some items the reception goes on with what follows them. -/
theorem receive_after (order : ByteOrder) {items : List SetupItem} (valid : ∀ k ∈ items, k.Valid)
    {more : List UInt8} (gives : Gives false s (items.flatMap (·.bytes) ++ more) rest) :
    ∃ t, Gives false t more rest ∧
      (receive order s).clients = items.filterMap (·.client?) ++ (receive order t).clients ∧
      (receive order s).ending = (receive order t).ending ∧
      (receive order s).rest = (receive order t).rest := by
  induction items generalizing s with
  | nil => exact ⟨s, gives, rfl, rfl, rfl⟩
  | cons k items ih =>
    obtain ⟨first, others⟩ := List.forall_mem_cons.1 valid
    rw [List.flatMap_cons, List.append_assoc] at gives
    obtain ⟨v, consumes, came, same⟩ := k.consumes_next order first
    obtain ⟨t, next, gives'⟩ := consumes false s _ rest gives
    obtain ⟨u, left, clients, ending, rest'⟩ := ih others gives'
    refine ⟨u, left, ?_, ?_, ?_⟩
    · rw [receive_of_visit next came, same, clients, ← List.append_assoc]
      cases k <;> rfl
    · rw [receive_of_visit next came, ending]
    · rw [receive_of_visit next came, rest']

theorem receive_whole (order : ByteOrder) {items : List SetupItem} (valid : ∀ k ∈ items, k.Valid)
    (gives : Gives false s (items.flatMap (·.bytes)) rest) (closed : byte? rest = (.ok none, left)) :
    (receive order s).clients = items.filterMap (·.client?) ∧ (receive order s).ending = .ok () ∧
      (receive order s).rest = left := by
  rw [← List.append_nil (items.flatMap _)] at gives
  obtain ⟨t, next, clients, ending, rest'⟩ := receive_after order valid gives
  have ended : Visit.next order t = (.ok .closed, left) :=
    Attempt.run_bind_ok ((byte?_of_gives_nil next).trans closed)
  rw [receive_of_closed ended] at clients ending rest'
  rw [List.append_nil] at clients
  exact ⟨clients, ending, rest'⟩

theorem receive_cut (order : ByteOrder) {items : List SetupItem} (valid : ∀ k ∈ items, k.Valid)
    {part : List UInt8} (short : part.length < 2 * nameWidth)
    (gives : Gives false s (items.flatMap (·.bytes) ++ Opcode.setup.byte :: part) rest)
    (closed : byte? rest = (.ok none, left)) :
    (receive order s).clients = items.filterMap (·.client?) ∧
      (receive order s).ending = .error (.transport (.closedAfter part.length (2 * nameWidth))) ∧
      (receive order s).rest = left := by
  obtain ⟨t, next, clients, ending, rest'⟩ := receive_after order valid gives
  obtain ⟨u, hb, gives'⟩ := byte?_of_gives next
  have broken := Setup.decode_of_closed order gives' closed short
  have ended : Visit.next order t =
      (.error (.transport (.closedAfter part.length (2 * nameWidth))), left) := by
    refine (Attempt.run_bind_ok hb).trans ?_
    show Visit.announced order u = _
    unfold Visit.announced
    rw [broken]
    rfl
  rw [receive_of_fault ended] at clients ending rest'
  rw [List.append_nil] at clients
  exact ⟨clients, ending, rest'⟩

/-- However what comes to the acceptor comes in pieces, those who announce themselves well are accepted,
in the order in which they come, and nobody else.  The acceptor is done when the stream is closed; if it
is closed within an announcement, nobody is accepted for that and it is a fault of the stream. -/
theorem receive_items {items : List SetupItem} (valid : ∀ k ∈ items, k.Valid) (order : ByteOrder) :
    (∀ s rest left, Gives false s (items.flatMap (·.bytes)) rest → byte? rest = (.ok none, left) →
      (receive order s).clients = items.filterMap (·.client?) ∧
        (receive order s).ending = .ok () ∧ (receive order s).rest = left) ∧
    ∀ s part rest left, part.length < 2 * nameWidth →
      Gives false s (items.flatMap (·.bytes) ++ Opcode.setup.byte :: part) rest →
      byte? rest = (.ok none, left) →
      (receive order s).clients = items.filterMap (·.client?) ∧
        (receive order s).ending =
          .error (.transport (.closedAfter part.length (2 * nameWidth))) ∧
        (receive order s).rest = left := by
  constructor
  · intro s rest left gives closed
    exact receive_whole order valid gives closed
  · intro s part rest left short gives closed
    exact receive_cut order valid short gives closed

end

attribute [local instance] Platform.x86_64 in
/-- A stray request, an announcement whose first name does not end, and one that is well made; then the
stream is closed, or closed within another announcement. -/
theorem receive_items_of_each_kind :
    let field (text : String) : List UInt8 :=
      Text.Utf8.encode text ++ List.replicate (nameWidth - (Text.Utf8.encode text).length) 0
    let m : Setup := { request := "in", response := "out" }
    let items : List SetupItem :=
      [.other 0x36, .illegible (List.replicate nameWidth 0x41) (field "out"),
        .client m (field "in") (field "out")]
    let bytes := items.flatMap (·.bytes)
    let whole := receive .big [.data (bytes.take 50), .interrupted, .data (bytes.drop 50), .closed]
    let cut := receive .big [.data bytes, .data [0x31, 0x69, 0x6E], .closed]
    whole.clients = [m] ∧ whole.ending = .ok () ∧
      cut.clients = [m] ∧ cut.ending = .error (.transport (.closedAfter 2 80)) := by
  intro field m items bytes whole cut
  have valid : ∀ k ∈ items, k.Valid := by
    have stray : (SetupItem.other 0x36).Valid := show (0x36 : UInt8) ≠ Opcode.setup.byte by decide
    have endless : (SetupItem.illegible (List.replicate nameWidth 0x41) (field "out")).Valid :=
      ⟨⟨by decide, by decide⟩, .inl (.inl (by decide))⟩
    have good : (SetupItem.client m (field "in") (field "out")).Valid :=
      ⟨⟨by decide, by decide⟩, ⟨by decide, _, rfl⟩, by decide, _, rfl⟩
    simp only [items, List.forall_mem_cons]
    exact ⟨stray, endless, good, fun _ hk => absurd hk List.not_mem_nil⟩
  have gives : Gives false [.data (bytes.take 50), .interrupted, .data (bytes.drop 50), .closed]
      bytes [.closed] := by
    have pieces := (gives_data false (bytes.drop 50) [.closed]).interrupted.data (bytes.take 50)
    rwa [List.take_append_drop] at pieces
  have gives_cut : Gives false [.data bytes, .data [0x31, 0x69, 0x6E], .closed]
      (bytes ++ Opcode.setup.byte :: [0x69, 0x6E]) [.closed] :=
    (gives_data false [0x31, 0x69, 0x6E] [.closed]).data bytes
  obtain ⟨clients, ending, -⟩ := (receive_items valid .big).1 _ _ _ gives rfl
  obtain ⟨clients_cut, ending_cut, -⟩ :=
    (receive_items valid .big).2 _ _ _ _ (by decide) gives_cut rfl
  exact ⟨clients, ending, clients_cut, ending_cut⟩

end Acceptor

end BoxOffice
