import BoxOffice.Proofs.Wire.Layout
import BoxOffice.Wire.Reply
import BoxOffice.Wire.Setup
/-!
# Messages in their frames

Every message is received as a `Layout` says (`Message.decode_layout`), and each of these layouts is exact
(`Message.exact_layout`): the lengths of frames are reckoned from the same counts as the fields that
are taken from them, up to the counts for which that is refused.

Main statement: `Message.decode_in_frames`.
-/

namespace BoxOffice

open Source

/-! ## Arrays -/

namespace Layout

variable [Platform]

/-- An array of numbers behind the frame that tells how many there are. -/
def words {α : Type} (count : Nat) (next : List UInt32 → Layout α) : Layout α :=
  if UInt64.size ≤ count * 4 then .refuse (.protocol (.fieldsOverflow count 4))
  else .frame (count * 4) (Frame.many Frame.word32 4 count) next

/-- The seats of a reservation behind the frame that tells how many there are. -/
def seats (maxSeats count : UInt64) (next : List Seat → Layout Request) : Layout Request :=
  let payload := count.toNat * Request.seatWidth
  if UInt64.size ≤ payload then .refuse (.transport (.undrainable count))
  else if maxSeats < count then
    .skip payload (.refuse (.protocol (.tooManySeats count maxSeats)))
  else .frame payload (Request.takeSeats count.toNat) next

variable {maxSeats : UInt64} {causes : ProtocolCause → Prop}

theorem decode_words (order : ByteOrder) {α : Type} (count : Nat) (next : List UInt32 → Layout α) :
    (words count next).decode order = (do
      let length ← arrayLength count 4
      let ws ← fields order length (Frame.many Frame.word32 4 count)
      (next ws).decode order) := by
  unfold words arrayLength
  split
  · rfl
  · rfl

theorem decode_seats (order : ByteOrder) (count : UInt64) (next : List Seat → Layout Request) :
    (seats maxSeats count next).decode order = (do
      let seats ← Request.decodeSeats order maxSeats count
      (next seats).decode order) := by
  unfold seats Request.decodeSeats
  dsimp only
  split
  · rfl
  · split
    · simp only [decode, bind_assoc]
      rfl
    · rfl

theorem exact_words {α : Type} {count : Nat} {next : List UInt32 → Layout α}
    (flaw : UInt64.size ≤ count * 4 → causes (.fieldsOverflow count 4))
    (rest : ∀ ws, (next ws).Exact causes) : (words count next).Exact causes := by
  unfold words
  split
  · rename_i large
    exact flaw large
  · exact ⟨Frame.fills_many Frame.fills_word32 4 count, rest⟩

/-- All rows and all columns are as long as the seats. -/
theorem fills_takeSeats (count : Nat) :
    Frame.Fills (Request.takeSeats count) (count * Request.seatWidth) causes := by
  have column : Frame.Fills (Frame.many Frame.word64 8 count) (count * 8) causes :=
    Frame.fills_many Frame.fills_word64 8 count
  have both := column.bind fun rows => column.map fun cols =>
    Frame.fills_pure (List.zipWith Seat.mk rows cols)
  rwa [← Nat.mul_add] at both

theorem exact_seats {count : UInt64} {next : List Seat → Layout Request}
    (flaw : maxSeats < count → causes (.tooManySeats count maxSeats))
    (rest : ∀ seats, (next seats).Exact causes) : (seats maxSeats count next).Exact causes := by
  unfold seats
  dsimp only
  split
  · trivial
  · split
    · rename_i many
      exact flaw many
    · exact ⟨fills_takeSeats count.toNat, rest⟩

end Layout

/-! ## The messages -/

/-- What is received: by the office, an announcement and requests; by a client, the replies to these. -/
inductive Message where
  | setup
  /-- A request of which the opcode has been read. -/
  | request (op : Opcode)
  | setupReply
  | outcome
  | view
  | list

namespace Message

/-- What such a message says. -/
@[reducible] def Value : Message → Type
  | setup => Setup
  | request _ => Request
  | setupReply => SetupReply
  | outcome => Outcome
  | view => ViewReply
  | list => ListReply

section

variable [Platform]

/-- How it is received. -/
def decode (order : ByteOrder) (maxSeats : UInt64) : (m : Message) → Attempt Source m.Value
  | setup => Setup.decode order
  | request op => Request.decode order maxSeats op
  | setupReply => SetupReply.decode order
  | outcome => Outcome.decode order
  | view => ViewReply.decode order
  | list => ListReply.decode order

/-- The field of an outcome. -/
def takeOutcome : Attempt Frame Outcome := do return .ofCode (← Frame.int32)

/-- In which frames it is received. -/
def layout (maxSeats : UInt64) : (m : Message) → Layout m.Value
  | setup => .frame (2 * nameWidth) Setup.take .value
  | request .create =>
    .frame 20 (do return .create (← Frame.word32) (← Frame.word64) (← Frame.word64)) .value
  | request .reserve =>
    .frame 12 (do return (← Frame.word32, ← Frame.word64)) fun (id, count) =>
      .seats maxSeats count fun seats => .value (.reserve id seats)
  | request .view => .frame 4 (do return .view (← Frame.word32)) .value
  | request .list => .value .list
  | request .quit => .value .quit
  | request .setup => .refuse (.protocol .setupInSession)
  | setupReply => .frame 4 (do return { sessionId := ← Frame.int32 }) .value
  | outcome => .frame 4 takeOutcome .value
  | view => .frame 4 takeOutcome fun
    | .failed => .value .failed
    | .done => .frame 16 (do return (← Frame.word64, ← Frame.word64)) fun (rows, cols) =>
      if UInt64.size ≤ rows.toNat * cols.toNat then .refuse (.protocol (.gridOverflow rows cols))
      else .words (rows.toNat * cols.toNat) fun markers => .value (.found rows cols markers)
  | list => .frame 4 takeOutcome fun
    | .failed => .value .failed
    | .done => .frame 8 Frame.word64 fun count => .words count.toNat fun ids => .value (.found ids)

/-- What can be wrong with a message whose bytes have all come. -/
inductive Flaw (maxSeats : UInt64) : Message → ProtocolCause → Prop
  | unterminated : Flaw maxSeats setup (.unterminated nameWidth)
  | notText (fault : Text.Utf8Fault) : Flaw maxSeats setup (.notText fault)
  | tooManySeats {count : UInt64} (many : maxSeats < count) :
      Flaw maxSeats (request .reserve) (.tooManySeats count maxSeats)
  | setupInSession : Flaw maxSeats (request .setup) .setupInSession
  | gridOverflow {rows cols : UInt64} (large : UInt64.size ≤ rows.toNat * cols.toNat) :
      Flaw maxSeats view (.gridOverflow rows cols)
  | markersOverflow {rows cols : UInt64} (countable : rows.toNat * cols.toNat < UInt64.size)
      (large : UInt64.size ≤ rows.toNat * cols.toNat * 4) :
      Flaw maxSeats view (.fieldsOverflow (rows.toNat * cols.toNat) 4)
  | idsOverflow {count : UInt64} (large : UInt64.size ≤ count.toNat * 4) :
      Flaw maxSeats list (.fieldsOverflow count.toNat 4)

variable {maxSeats : UInt64}

/-! ## Messages are received as they are laid out -/

theorem decode_layout (order : ByteOrder) (m : Message) :
    (m.layout maxSeats).decode order = m.decode order maxSeats := by
  cases m with
  | setup => exact bind_pure _
  | request op =>
    cases op with
    | create | view => exact bind_pure _
    | reserve =>
      unfold layout Message.decode Request.decode
      simp only [Layout.decode, Layout.decode_seats]
    | list | quit | setup => rfl
  | setupReply => exact bind_pure _
  | outcome => exact bind_pure _
  | view =>
    unfold layout Message.decode ViewReply.decode
    refine bind_congr fun outcome => ?_
    cases outcome with
    | failed => rfl
    | done =>
      refine bind_congr fun (rows, cols) => ?_
      dsimp only
      split
      · rfl
      · exact Layout.decode_words order _ _
  | list =>
    unfold layout Message.decode ListReply.decode
    refine bind_congr fun outcome => ?_
    cases outcome with
    | failed => rfl
    | done => exact bind_congr fun count => Layout.decode_words order count.toNat _

/-! ## They are laid out exactly -/

theorem fills_takeOutcome {causes : ProtocolCause → Prop} : Frame.Fills takeOutcome 4 causes :=
  Frame.fills_int32.map fun _ => Frame.fills_pure _

theorem exact_layout (m : Message) : (m.layout maxSeats).Exact (m.Flaw maxSeats) := by
  cases m with
  | setup =>
    have name : Frame.Fills (Frame.text nameWidth) nameWidth (Flaw maxSeats setup) :=
      Frame.fills_text .unterminated .notText
    exact ⟨name.bind fun _ => name.map fun _ => Frame.fills_pure _, fun _ => trivial⟩
  | request op =>
    cases op with
    | create =>
      refine ⟨?_, fun _ => trivial⟩
      exact Frame.fills_word32.bind fun _ => Frame.fills_word64.bind fun _ =>
        Frame.fills_word64.map fun _ => Frame.fills_pure _
    | reserve =>
      refine ⟨?_, fun header => Layout.exact_seats .tooManySeats fun _ => trivial⟩
      exact Frame.fills_word32.bind fun _ => Frame.fills_word64.map fun _ => Frame.fills_pure _
    | view => exact ⟨Frame.fills_word32.map fun _ => Frame.fills_pure _, fun _ => trivial⟩
    | list | quit => trivial
    | setup => exact Flaw.setupInSession
  | setupReply => exact ⟨Frame.fills_int32.map fun _ => Frame.fills_pure _, fun _ => trivial⟩
  | outcome => exact ⟨fills_takeOutcome, fun _ => trivial⟩
  | view =>
    refine ⟨fills_takeOutcome, fun outcome => ?_⟩
    cases outcome with
    | failed => trivial
    | done =>
      refine ⟨Frame.fills_word64.bind fun _ => Frame.fills_word64.map fun _ => Frame.fills_pure _, ?_⟩
      rintro ⟨rows, cols⟩
      dsimp only
      split
      · rename_i large
        exact Flaw.gridOverflow large
      · rename_i countable
        exact Layout.exact_words (.markersOverflow (Nat.not_le.1 countable)) fun _ => trivial
  | list =>
    refine ⟨fills_takeOutcome, fun outcome => ?_⟩
    cases outcome with
    | failed => trivial
    | done => exact ⟨Frame.fills_word64, fun _ => Layout.exact_words .idsOverflow fun _ => trivial⟩

/-- **No decoder outruns its frames.**  Every message is received as it is laid out.  When it has been
received, nothing is left of any of its frames; and when it is refused for what it holds, it has one of
its flaws, among which it is not that a frame is too short for a field. -/
theorem decode_in_frames (m : Message) (order : ByteOrder) (maxSeats : UInt64) :
    (m.layout maxSeats).decode order = m.decode order maxSeats ∧
    (∀ s a t, (m.decode order maxSeats).run s = (.ok a, t) →
      ∀ f ∈ (m.layout maxSeats).leftOver order s, f.bytes = []) ∧
    ∀ s cause t, (m.decode order maxSeats).run s = (.error (.protocol cause), t) →
      m.Flaw maxSeats cause ∧ ∀ left needed, cause ≠ .shortFrame left needed := by
  have exact_frames : (m.layout maxSeats).Exact (m.Flaw maxSeats) := exact_layout m
  rw [← decode_layout order m]
  refine ⟨rfl, fun s a t decoded => exact_frames.whole decoded, fun s cause t refused => ?_⟩
  have flaw : m.Flaw maxSeats cause := exact_frames.among order s _ t refused
  refine ⟨flaw, ?_⟩
  rintro left needed rfl
  cases flaw

end

attribute [local instance] Platform.x86_64 in
/-- The three frames of a grid of one seat. -/
example : (view.layout 0).leftOver .big
    [.data [0, 0, 0, 0], .data (ByteOrder.big.word64 1 ++ ByteOrder.big.word64 1 ++ [0, 0, 0, 7, 9])] =
      [⟨.big, []⟩, ⟨.big, []⟩, ⟨.big, []⟩] := by decide

end Message

end BoxOffice
