import BoxOffice.Proofs.Text.Utf8
import BoxOffice.Proofs.Wire.Reading
import BoxOffice.Proofs.Wire.Setup
/-!
# Fields of every type

A number can always be put; a text `Fits` its field if it leaves room for a zero byte and has no other
in it.  What has been put is taken again as it was (`Field.exists_encode`), and a field that could not
be put does not show in the message.  A field of any type is taken as a whole: it needs its width and
no more (`FieldType.needs`), and with that it is gone, whether it holds a value or not
(`FieldType.take_of_enough`).

Main statement: `Field.fields_survive`.
-/

namespace BoxOffice

open Text

variable {text : String} {width : Nat} {bs : List UInt8}

/-! ## Texts in their fields -/

/-- The text and zero bytes behind it, up to the width. -/
def filled (text : String) (width : Nat) : List UInt8 :=
  Utf8.encode text ++ List.replicate (width - text.utf8ByteSize) 0

theorem length_filled (room : text.utf8ByteSize ≤ width) : (filled text width).length = width := by
  unfold filled
  rw [List.length_append, List.length_replicate, Utf8.length_encode, Nat.add_sub_cancel' room]

theorem holdsText_filled (room : text.utf8ByteSize < width) (without : '\x00' ∉ text.toList) :
    HoldsText (filled text width) text := by
  obtain ⟨zeros, some⟩ := Nat.exists_eq_add_of_lt room
  refine ⟨mt Utf8.zero_mem_encode_iff.1 without, List.replicate zeros 0, ?_⟩
  unfold filled
  rw [some, Nat.add_assoc, Nat.add_sub_cancel_left]
  rfl

theorem textField_of_fits (room : text.utf8ByteSize < width) (without : '\x00' ∉ text.toList) :
    textField text width = .ok (filled text width) := by
  unfold textField filled
  dsimp only
  rw [Utf8.length_encode, if_neg (Nat.not_le.2 room), if_neg]
  rw [List.contains_iff_mem, Utf8.zero_mem_encode_iff]
  exact without

theorem textField_of_not_fits (h : ¬(text.utf8ByteSize < width ∧ '\x00' ∉ text.toList)) :
    ∃ cause, textField text width = .error (.endpointName cause) := by
  unfold textField
  dsimp only
  rw [Utf8.length_encode]
  by_cases room : width ≤ text.utf8ByteSize
  · rw [if_pos room]
    exact ⟨_, rfl⟩
  · have zero : '\x00' ∈ text.toList := by
      refine Classical.not_not.1 fun without => h ⟨Nat.not_le.1 room, without⟩
    rw [if_neg room, if_pos (List.contains_iff_mem.2 (Utf8.zero_mem_encode_iff.2 zero))]
    exact ⟨_, rfl⟩

/-! ## Bytes of the right number -/

namespace Frame

variable (order : ByteOrder)

variable [Platform]

theorem takes_word8 (n : UInt8) : Takes order word8 [n] n := by
  have number := takes_number order [n]
  have written : order.read [n] = n.toNat := by cases order <;> simp [ByteOrder.read, littleValue]
  rw [written] at number
  refine number.map (?_ : Takes order (pure (UInt8.ofNat n.toNat)) [] n)
  rw [UInt8.ofNat_toNat]
  exact takes_pure n

/-- Where there are fewer bytes than that, nothing is taken, and the fault says so. -/
def Needs {α : Type} (take : Attempt Frame α) (width : Nat) : Prop :=
  ∀ f : Frame, f.bytes.length < width →
    take.run f = (.error (.protocol (.shortFrame f.bytes.length width)), f)

omit [Platform] in
theorem needs_raw (width : Nat) : Needs (raw width) width := by
  intro f short
  unfold Attempt.run raw
  dsimp only
  rw [if_pos (Nat.lt_of_le_of_lt (List.length_take_le' ..) short)]

theorem needs_number (width : Nat) : Needs (number width) width := by
  intro f short
  have fails : raw width f = _ := needs_raw width f short
  unfold Attempt.run number
  rw [fails]

omit [Platform] in
/-- Only the first thing that is taken needs bytes. -/
theorem Needs.andThen {α β : Type} {take : Attempt Frame α} (h : Needs take width)
    (next : α → Attempt Frame β) : Needs (take >>= next) width :=
  fun f short => Attempt.run_bind_error (h f short)

end Frame

namespace FieldType

open BoxOffice.Frame

variable [Platform]

theorem needs (type : FieldType) : Needs type.take type.width := by
  cases type with
  | word8 => exact ((needs_number 1).andThen _).andThen _
  | word32 => exact ((needs_number 4).andThen _).andThen _
  | int32 => exact (((needs_number 4).andThen _).andThen _).andThen _
  | word64 => exact ((needs_number 8).andThen _).andThen _
  | text width => exact ((needs_raw width).andThen _).andThen _

/-- Bytes of the right number are a value of the type, unless they should be a text and are none. -/
theorem take_of_length (order : ByteOrder) (type : FieldType) (length : bs.length = type.width) :
    (∃ f : Field, f.type = type ∧ Takes order type.take bs f) ∨
    ∃ width, type = .text width ∧ Illegible bs ∧ ∀ rest, ∃ cause,
      type.take.run { order, bytes := bs ++ rest } =
        (.error (.protocol cause), { order, bytes := rest }) := by
  have number := takes_number order bs
  rw [length] at number
  cases type with
  | word8 =>
    have value : Takes order Frame.word8 bs _ := number.map (takes_pure _)
    exact .inl ⟨.word8 _, rfl, value.map (takes_pure _)⟩
  | word32 =>
    have value : Takes order Frame.word32 bs _ := number.map (takes_pure _)
    exact .inl ⟨.word32 _, rfl, value.map (takes_pure _)⟩
  | int32 =>
    have pattern : Takes order Frame.word32 bs _ := number.map (takes_pure _)
    have value : Takes order Frame.int32 bs _ := pattern.map (takes_pure _)
    exact .inl ⟨.int32 _, rfl, value.map (takes_pure _)⟩
  | word64 =>
    have value : Takes order Frame.word64 bs _ := number.map (takes_pure _)
    exact .inl ⟨.word64 _, rfl, value.map (takes_pure _)⟩
  | text width =>
    obtain rfl : bs.length = width := length
    rcases holdsText_or_illegible bs with ⟨text, holds⟩ | illegible
    · exact .inl ⟨.text text _, rfl, (takes_text order holds).map (takes_pure _)⟩
    · refine .inr ⟨_, rfl, illegible, fun rest => ?_⟩
      obtain ⟨cause, fails⟩ := text_of_illegible order illegible rest
      exact ⟨cause, Attempt.run_bind_error fails⟩

/-- Where a field has its width, just that is gone. -/
theorem take_of_enough {type : FieldType} {f : Frame} (enough : type.width ≤ f.bytes.length) :
    (type.take.run f).2 = { f with bytes := f.bytes.drop type.width } ∧
    ((∃ a : Field, a.type = type ∧ (type.take.run f).1 = .ok a) ∨
      ∃ width cause, type = .text width ∧ Illegible (f.bytes.take width) ∧
        (type.take.run f).1 = .error (.protocol cause)) := by
  have whole : f = { f with bytes := f.bytes.take type.width ++ f.bytes.drop type.width } := by
    rw [List.take_append_drop]
  rcases take_of_length f.order type (List.length_take_of_le enough) with
    ⟨a, same, takes⟩ | ⟨width, rfl, illegible, fails⟩
  · have taken := takes (f.bytes.drop type.width)
    rw [← whole] at taken
    rw [taken]
    exact ⟨rfl, .inl ⟨a, same, rfl⟩⟩
  · obtain ⟨cause, failed⟩ := fails (f.bytes.drop (FieldType.text width).width)
    rw [← whole] at failed
    rw [failed]
    exact ⟨rfl, .inr ⟨width, cause, rfl, illegible, rfl⟩⟩

/-- What is left of a frame when fields of these types have been taken, whatever came of each. -/
def restAfter : List FieldType → Frame → Frame
  | [], f => f
  | type :: types, f => restAfter types (type.take.run f).2

end FieldType

namespace Field

variable {order : ByteOrder} {f : Field} {message : List UInt8}

/-- The value finds room in its field, with a zero byte behind it where it is a text. -/
def Fits : Field → Prop
  | .text value width => value.utf8ByteSize < width ∧ '\x00' ∉ value.toList
  | .word8 _ | .word32 _ | .int32 _ | .word64 _ => True

instance : DecidablePred Fits
  | .text _ _ => inferInstanceAs (Decidable (_ ∧ _))
  | .word8 _ | .word32 _ | .int32 _ | .word64 _ => inferInstanceAs (Decidable True)

variable [Platform]

/-- The message after fields have been put at its end, whatever came of each. -/
def putAll (order : ByteOrder) : List Field → List UInt8 → List UInt8
  | [], message => message
  | f :: fields, message => putAll order fields ((f.put order).run message).2

/-- What fits is sent in bytes from which it is taken again. -/
theorem exists_encode (order : ByteOrder) (h : f.Fits) :
    ∃ bs, f.encode order = .ok bs ∧ bs.length = f.type.width ∧
      Frame.Takes order f.type.take bs f := by
  cases f with
  | word8 n => exact ⟨_, rfl, rfl, (Frame.takes_word8 order n).map (Frame.takes_pure _)⟩
  | word32 n =>
    exact ⟨_, rfl, order.length_word32 n, (Frame.takes_word32 order n).map (Frame.takes_pure _)⟩
  | int32 n =>
    exact ⟨_, rfl, order.length_int32 n, (Frame.takes_int32 order n).map (Frame.takes_pure _)⟩
  | word64 n =>
    exact ⟨_, rfl, order.length_word64 n, (Frame.takes_word64 order n).map (Frame.takes_pure _)⟩
  | text value width =>
    obtain ⟨room, without⟩ := h
    have length := length_filled (Nat.le_of_lt room)
    have takes := Frame.takes_text order (holdsText_filled room without)
    rw [length] at takes
    exact ⟨_, textField_of_fits room without, length, takes.map (Frame.takes_pure _)⟩

theorem put_of_fits (order : ByteOrder) (h : f.Fits) :
    ∃ bs, (∀ message, (f.put order).run message = (.ok (), message ++ bs)) ∧
      bs.length = f.type.width ∧ Frame.Takes order f.type.take bs f := by
  obtain ⟨bs, sent, length, takes⟩ := exists_encode order h
  refine ⟨bs, fun message => ?_, length, takes⟩
  unfold put
  rw [sent]
  rfl

theorem put_of_not_fits (order : ByteOrder) (h : ¬f.Fits) (message : List UInt8) :
    ∃ cause, (f.put order).run message = (.error (.endpointName cause), message) := by
  cases f with
  | word8 | word32 | int32 | word64 => exact absurd trivial h
  | text value width =>
    obtain ⟨cause, refused⟩ := textField_of_not_fits h
    have unsent : encode order (.text value width) = .error (.endpointName cause) := refused
    refine ⟨cause, ?_⟩
    unfold put
    rw [unsent]
    rfl

/-- Whatever stood in the message before, what was put after it is taken again. -/
theorem putAll_taken (order : ByteOrder) (fields : List Field) (message : List UInt8) :
    ∃ bs, putAll order fields message = message ++ bs ∧ ∀ rest,
      Reading.takeAll ((fields.filter Fits).map type) { order, bytes := bs ++ rest } =
          (fields.filter Fits).map .ok ∧
        FieldType.restAfter ((fields.filter Fits).map type) { order, bytes := bs ++ rest } =
          { order, bytes := rest } := by
  induction fields generalizing message with
  | nil => exact ⟨[], (List.append_nil message).symm, fun rest => ⟨rfl, rfl⟩⟩
  | cons f fields ih =>
    by_cases fits : f.Fits
    · have sent : (f :: fields).filter Fits = f :: fields.filter Fits :=
        List.filter_cons_of_pos (decide_eq_true fits)
      obtain ⟨bs, put, -, takes⟩ := put_of_fits order fits
      obtain ⟨more, whole, others⟩ := ih (message ++ bs)
      refine ⟨bs ++ more, ?_, fun rest => ?_⟩
      · rw [putAll, put, whole, List.append_assoc]
      · obtain ⟨answers, left⟩ := others rest
        have first : f.type.take _ = _ := takes (more ++ rest)
        rw [sent, List.map_cons, List.map_cons, List.append_assoc]
        constructor
        · rw [Reading.takeAll, first, ← answers]
        · rw [FieldType.restAfter, Attempt.run, first]
          exact left
    · have unsent : (f :: fields).filter Fits = fields.filter Fits :=
        List.filter_cons_of_neg (by simpa using fits)
      obtain ⟨cause, refused⟩ := put_of_not_fits order fits message
      obtain ⟨bs, whole, others⟩ := ih message
      refine ⟨bs, ?_, ?_⟩
      · rw [putAll, refused, whole]
      · rw [unsent]
        exact others

/-- **Fields of all types survive the wire.**  A field that fits is put at the end of the message in as
many bytes as its type is wide; one that does not fit leaves the message as it was.  From a message that
was put together like this the fields that fitted are taken again, in order and each as it was, and
nothing is left.  From any frame at all, a field of any type either finds too few bytes and takes none,
or takes just its width, even where this holds no text that could be told. -/
theorem fields_survive (order : ByteOrder) :
    (∀ (f : Field) (message : List UInt8),
      (f.Fits → ∃ bs, bs.length = f.type.width ∧
        (f.put order).run message = (.ok (), message ++ bs)) ∧
      (¬f.Fits → ∃ cause, (f.put order).run message = (.error (.endpointName cause), message))) ∧
    (∀ fields : List Field,
      let sent := fields.filter Fits
      let frame : Frame := { order, bytes := putAll order fields [] }
      Reading.takeAll (sent.map type) frame = sent.map .ok ∧
        (FieldType.restAfter (sent.map type) frame).bytes = []) ∧
    ∀ (type : FieldType) (f : Frame),
      (f.bytes.length < type.width ∧
        type.take.run f = (.error (.protocol (.shortFrame f.bytes.length type.width)), f)) ∨
      (type.width ≤ f.bytes.length ∧
        (type.take.run f).2 = { f with bytes := f.bytes.drop type.width } ∧
        ((∃ a : Field, a.type = type ∧ (type.take.run f).1 = .ok a) ∨
          ∃ width cause, type = .text width ∧ Illegible (f.bytes.take width) ∧
            (type.take.run f).1 = .error (.protocol cause))) := by
  refine ⟨fun f message => ⟨fun fits => ?_, fun unfit => ?_⟩, fun fields => ?_, fun type f => ?_⟩
  · obtain ⟨bs, put, length, -⟩ := put_of_fits order fits
    exact ⟨bs, length, put message⟩
  · exact put_of_not_fits order unfit message
  · obtain ⟨bs, whole, taken⟩ := putAll_taken order fields []
    obtain ⟨answers, left⟩ := taken []
    rw [List.append_nil] at answers left
    dsimp only
    rw [whole, List.nil_append, left]
    exact ⟨answers, rfl⟩
  · rcases Nat.lt_or_ge f.bytes.length type.width with short | enough
    · exact .inl ⟨short, type.needs f short⟩
    · exact .inr ⟨enough, FieldType.take_of_enough enough⟩

end Field

end BoxOffice
