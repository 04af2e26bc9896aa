import BoxOffice.Proofs.Stream.Breaking
import BoxOffice.Proofs.Wire.Frame
import BoxOffice.Wire.Setup
/-!
# Announcements

A field of an announcement `HoldsText` if it begins with the bytes of a text and a zero byte after
them; every other field is `Illegible` (`holdsText_or_illegible`).  An announcement takes its two
fields off the stream whether they hold texts or not (`Setup.consumes_decode`,
`Setup.consumes_decode_illegible`), and nothing is made of one whose end is missing
(`Setup.decode_of_closed`).
-/

namespace BoxOffice

open Source Text

/-- The field begins with a text and the zero byte that ends it. -/
def HoldsText (field : List UInt8) (text : String) : Prop :=
  0 ∉ Utf8.encode text ∧ ∃ padding, field = Utf8.encode text ++ 0 :: padding

/-- The field has no zero byte, or what comes before the first is no text. -/
def Illegible (field : List UInt8) : Prop :=
  0 ∉ field ∨ ∃ front padding, field = front ++ 0 :: padding ∧ 0 ∉ front ∧
    ∀ text, Utf8.encode text ≠ front

/-- There is no third kind of field. -/
theorem holdsText_or_illegible (field : List UInt8) :
    (∃ text, HoldsText field text) ∨ Illegible field := by
  by_cases ended : 0 ∈ field
  · obtain ⟨front, padding, rfl, first⟩ := List.eq_append_cons_of_mem ended
    by_cases written : ∃ text, Utf8.encode text = front
    · obtain ⟨text, rfl⟩ := written
      exact .inl ⟨text, first, padding, rfl⟩
    · exact .inr (.inr ⟨front, padding, rfl, first, not_exists.1 written⟩)
  · exact .inr (.inl ended)

namespace Frame

variable {field : List UInt8} (order : ByteOrder)

/-- What stands before the first zero byte. -/
theorem takeWhile_zero {front : List UInt8} (first : 0 ∉ front) (padding : List UInt8) :
    (front ++ 0 :: padding).takeWhile (· ≠ 0) = front := by
  rw [List.takeWhile_append_of_pos, List.takeWhile_cons_of_neg (by decide), List.append_nil]
  intro b hb
  exact decide_eq_true fun zero => first (zero ▸ hb)

theorem takes_text {text : String} (holds : HoldsText field text) :
    Takes order (Frame.text field.length) field text := by
  refine (takes_raw order field).map ?_
  obtain ⟨first, padding, rfl⟩ := holds
  rw [takeWhile_zero first, Utf8.decode_encode, if_pos (by simp)]
  exact takes_pure text

/-- No text is taken, but the field is gone. -/
theorem text_of_illegible (illegible : Illegible field) (rest : List UInt8) :
    ∃ cause, (Frame.text field.length).run { order, bytes := field ++ rest } =
      (.error (.protocol cause), { order, bytes := rest }) := by
  unfold Frame.text
  rw [Attempt.run_bind_ok (takes_raw order field rest)]
  rcases illegible with endless | ⟨front, padding, rfl, first, noText⟩
  · rw [if_neg (by simpa using endless)]
    exact ⟨_, rfl⟩
  · rw [takeWhile_zero first, if_pos (by simp)]
    cases decoded : Utf8.decode front with
    | ok text => exact absurd (Utf8.encode_of_decode decoded) (noText text)
    | error fault => exact ⟨_, rfl⟩

end Frame

namespace Setup

variable (order : ByteOrder) {request response : List UInt8}

variable [Platform]

/-- An announcement with two names is received with both. -/
theorem consumes_decode {m : Setup} (hrequest : request.length = nameWidth)
    (hresponse : response.length = nameWidth) (first : HoldsText request m.request)
    (second : HoldsText response m.response) :
    Consumes (decode order) (request ++ response) (.ok m) := by
  have takes_first := Frame.takes_text order first
  have takes_second := Frame.takes_text order second
  rw [hrequest] at takes_first
  rw [hresponse] at takes_second
  refine consumes_fixed ?_ (by decide) (takes_first.bind (takes_second.map (Frame.takes_pure m)))
  rw [List.length_append, hrequest, hresponse]
  rfl

/-- An announcement without two names is received as a whole too. -/
theorem consumes_decode_illegible (hrequest : request.length = nameWidth)
    (hresponse : response.length = nameWidth) (illegible : Illegible request ∨ Illegible response) :
    ∃ cause, Consumes (decode order) (request ++ response) (.error (.protocol cause)) := by
  have whole : (request ++ response).length = 2 * nameWidth := by
    rw [List.length_append, hrequest, hresponse]
    rfl
  by_cases first : Illegible request
  · obtain ⟨cause, fails⟩ := Frame.text_of_illegible order first response
    rw [hrequest] at fails
    have taken : take.run { order, bytes := request ++ response } =
        (.error (.protocol cause), { order, bytes := response }) := Attempt.run_bind_error fails
    exact ⟨cause, consumes_fields_answer whole (Memory.refusal?_of_fixed (by decide))
      (congrArg Prod.fst taken)⟩
  · obtain ⟨text, holds⟩ := (holdsText_or_illegible request).resolve_right first
    have takes := Frame.takes_text order holds response
    obtain ⟨cause, fails⟩ := Frame.text_of_illegible order (illegible.resolve_left first) []
    rw [hrequest] at takes
    rw [hresponse, List.append_nil] at fails
    have taken : take.run { order, bytes := request ++ response } =
        (.error (.protocol cause), { order, bytes := [] }) := by
      unfold take
      rw [Attempt.run_bind_ok takes, Attempt.run_bind_error fails]
    exact ⟨cause, consumes_fields_answer whole (Memory.refusal?_of_fixed (by decide))
      (congrArg Prod.fst taken)⟩

/-- An announcement of which a part is missing cannot be received. -/
theorem decode_of_closed {s rest left : Source} {part : List UInt8} {quiet : Bool}
    (gives : Gives quiet s part rest) (closed : byte? rest = (.ok none, left))
    (short : part.length < 2 * nameWidth) :
    decode order s = (.error (.transport (.closedAfter part.length (2 * nameWidth))), left) := by
  have stopped : exactly (2 * nameWidth) s =
      (.error (.transport (.closedAfter part.length (2 * nameWidth))), left) := by
    unfold exactly
    rw [receive_of_gives_closed gives closed short]
    rfl
  have received : frame order (2 * nameWidth) s =
      (.error (.transport (.closedAfter part.length (2 * nameWidth))), left) := by
    unfold frame
    rw [Memory.refusal?_of_fixed (by decide)]
    exact Attempt.run_bind_error stopped
  show fields order (2 * nameWidth) take s = _
  unfold fields
  rw [received]

end Setup

end BoxOffice
