import BoxOffice.Endpoint
import BoxOffice.Proofs.Wire.Fields
import BoxOffice.Proofs.Wire.Taken
/-!
# Names in announcements

A text can be sent as a name when it and a zero byte find room in the field and it has no zero in
itself (`IsName`); just these texts are sent (`Setup.encode_eq_ok_iff`), and just these are received
(`HoldsText.isName`), whatever the field holds behind the zero byte.  So an announcement that has been
received can be sent again.

Main statement: `Setup.names_survive`.
-/

namespace BoxOffice

open Source Text

/-! ## Fields -/

/-- There is room for the text and a zero byte behind it, and no other zero. -/
def IsName (text : String) : Prop := text.utf8ByteSize < nameWidth ∧ '\x00' ∉ text.toList

instance (text : String) : Decidable (IsName text) := inferInstanceAs (Decidable (_ ∧ _))

/-- The field of a name: zeros fill it up. -/
def nameField (text : String) : List UInt8 :=
  Utf8.encode text ++ List.replicate (nameWidth - text.utf8ByteSize) 0

variable {text other : String} {field bs : List UInt8}

theorem length_nameField (h : IsName text) : (nameField text).length = nameWidth :=
  length_filled (Nat.le_of_lt h.1)

theorem textField_eq_ok_iff :
    textField text nameWidth = .ok bs ↔ IsName text ∧ bs = nameField text := by
  constructor
  · intro sent
    by_cases name : IsName text
    · rw [textField_of_fits name.1 name.2] at sent
      cases sent
      exact ⟨name, rfl⟩
    · obtain ⟨cause, refused⟩ := textField_of_not_fits name
      rw [refused] at sent
      cases sent
  · rintro ⟨name, rfl⟩
    exact textField_of_fits name.1 name.2

/-- A field holds the text before its first zero byte. -/
theorem holdsText_iff :
    HoldsText field text ↔ 0 ∈ field ∧ Utf8.encode text = field.takeWhile (· ≠ 0) := by
  constructor
  · rintro ⟨first, padding, rfl⟩
    exact ⟨by simp, (Frame.takeWhile_zero first padding).symm⟩
  · rintro ⟨zero, written⟩
    obtain ⟨front, padding, rfl, first⟩ := List.eq_append_cons_of_mem zero
    rw [Frame.takeWhile_zero first] at written
    rw [← written] at first
    exact ⟨first, padding, by rw [written]⟩

/-- A field holds one text only. -/
theorem HoldsText.eq (h : HoldsText field text) (h' : HoldsText field other) : text = other := by
  have same : Utf8.encode text = Utf8.encode other :=
    (holdsText_iff.1 h).2.trans (holdsText_iff.1 h').2.symm
  have read := Utf8.decode_encode text
  rw [same, Utf8.decode_encode other] at read
  exact (Except.ok.inj read).symm

theorem Illegible.not_holdsText (h : Illegible field) : ¬ HoldsText field text := by
  intro holds
  rcases h with endless | ⟨front, padding, rfl, first, noText⟩
  · exact endless (holdsText_iff.1 holds).1
  · have written := (holdsText_iff.1 holds).2
    rw [Frame.takeWhile_zero first] at written
    exact noText text written

theorem holdsText_nameField (h : IsName text) : HoldsText (nameField text) text :=
  holdsText_filled h.1 h.2

/-- What a field holds is a name. -/
theorem HoldsText.isName (h : HoldsText field text) (width : field.length = nameWidth) :
    IsName text := by
  obtain ⟨first, padding, rfl⟩ := h
  rw [List.length_append, List.length_cons, Utf8.length_encode] at width
  exact ⟨by omega, mt Utf8.zero_mem_encode_iff.2 first⟩

/-- An endpoint's name is one that can be sent, unless it has a zero in it. -/
theorem isName_of_endpointName {p : Path} (h : endpointName p = .ok text)
    (without : '\x00' ∉ text.toList) : IsName text := by
  unfold endpointName at h
  split at h
  · cases h
  · split at h
    · cases h
    · split at h
      · cases h
      · rename_i room
        cases h
        exact ⟨Nat.not_le.1 room, without⟩

namespace Frame

variable {order : ByteOrder}

/-- A text was taken from a field that held it. -/
theorem spends_text (width : Nat) :
    Attempt.Spends (Holds order) (Frame.text width) fun bs text =>
      bs.length = width ∧ HoldsText bs text := by
  refine (spends_raw width).bind ?_
  rintro piece _ ⟨rfl, length⟩
  split
  · rename_i zero
    split
    · rename_i text read
      refine Attempt.spends_pure ?_
      rw [List.append_nil, holdsText_iff]
      exact ⟨length, List.contains_iff_mem.1 zero, Utf8.encode_of_decode read⟩
    · exact Attempt.spends_fail _
  · exact Attempt.spends_fail _

end Frame

/-! ## Announcements -/

namespace Setup

variable {order : ByteOrder} {m : Setup}

theorem encode_eq_ok_iff :
    m.encode = .ok bs ↔ (IsName m.request ∧ IsName m.response) ∧
      bs = Opcode.setup.byte :: (nameField m.request ++ nameField m.response) := by
  unfold encode
  cases first : textField m.request nameWidth with
  | error fault =>
    have unsendable : ¬ IsName m.request := by
      intro name
      cases first.symm.trans (textField_eq_ok_iff.2 ⟨name, rfl⟩)
    constructor
    · nofun
    · rintro ⟨⟨name, -⟩, -⟩
      exact absurd name unsendable
  | ok request =>
    obtain ⟨name, rfl⟩ := textField_eq_ok_iff.1 first
    cases second : textField m.response nameWidth with
    | error fault =>
      have unsendable : ¬ IsName m.response := by
        intro name
        cases second.symm.trans (textField_eq_ok_iff.2 ⟨name, rfl⟩)
      constructor
      · nofun
      · rintro ⟨⟨-, name⟩, -⟩
        exact absurd name unsendable
    | ok response =>
      obtain ⟨name', rfl⟩ := textField_eq_ok_iff.1 second
      constructor
      · rintro ⟨⟩
        exact ⟨⟨name, name'⟩, rfl⟩
      · rintro ⟨-, rfl⟩
        rfl

section

variable [Platform]

/-- Whatever was received was sent in two fields that held the names. -/
theorem spends_decode :
    Attempt.Spends Source.Holds (decode order) fun bs m => ∃ request response,
      bs = request ++ response ∧ (request.length = nameWidth ∧ response.length = nameWidth) ∧
        HoldsText request m.request ∧ HoldsText response m.response := by
  have fields : Attempt.Spends (Frame.Holds order) take fun bs m => ∃ request response,
      bs = request ++ response ∧ (request.length = nameWidth ∧ response.length = nameWidth) ∧
        HoldsText request m.request ∧ HoldsText response m.response := by
    refine (Frame.spends_text nameWidth).bind ?_
    rintro request _ ⟨hrequest, first⟩
    refine (Frame.spends_text nameWidth).map ?_
    rintro response _ ⟨hresponse, second⟩
    exact ⟨request, response, rfl, ⟨hrequest, hresponse⟩, first, second⟩
  refine (spends_fields fields ?_).mono fun _ _ => And.left
  rintro _ _ ⟨request, response, rfl, ⟨hrequest, hresponse⟩, -⟩
  rw [List.length_append, hrequest, hresponse]
  rfl

/-- What can be sent is received as it was sent. -/
theorem consumes_decode_nameField (first : IsName m.request) (second : IsName m.response) :
    Consumes (decode order) (nameField m.request ++ nameField m.response) (.ok m) :=
  consumes_decode order (length_nameField first) (length_nameField second)
    (holdsText_nameField first) (holdsText_nameField second)

/-- Two fields are taken off the stream, and the answer is the names that they hold. -/
theorem decode_of_fields (order : ByteOrder) {request response : List UInt8}
    (hrequest : request.length = nameWidth) (hresponse : response.length = nameWidth) :
    ∃ answer, Consumes (decode order) (request ++ response) answer ∧
      ∀ m, answer = .ok m ↔ HoldsText request m.request ∧ HoldsText response m.response := by
  have broken (illegible : Illegible request ∨ Illegible response) :
      ∃ answer, Consumes (decode order) (request ++ response) answer ∧
        ∀ m, answer = .ok m ↔ HoldsText request m.request ∧ HoldsText response m.response := by
    obtain ⟨cause, fails⟩ := consumes_decode_illegible order hrequest hresponse illegible
    refine ⟨_, fails, fun m => ⟨nofun, ?_⟩⟩
    rintro ⟨first, second⟩
    exact (illegible.elim (·.not_holdsText first) (·.not_holdsText second)).elim
  rcases holdsText_or_illegible request with ⟨text, first⟩ | illegible
  · rcases holdsText_or_illegible response with ⟨text', second⟩ | illegible
    · have decodes := consumes_decode (m := ⟨text, text'⟩) order hrequest hresponse first second
      refine ⟨_, decodes, fun m => ⟨?_, ?_⟩⟩
      · rintro ⟨⟩
        exact ⟨first, second⟩
      · rintro ⟨first', second'⟩
        obtain ⟨request', response'⟩ := m
        rw [first.eq first', second.eq second']
    · exact broken (.inr illegible)
  · exact broken (.inl illegible)

/-- **Names survive the wire.**  An announcement is sent just when both of its names fit their fields,
and then it is received as it was sent, however it comes in pieces, and all that follows it is left.
Any two fields are taken as a whole, and they are received as an announcement just when each holds a
text before its first zero byte.  What was received, on whatever stream, can be sent again, and is
received as the same then, whatever stood behind the zero bytes. -/
theorem names_survive (order : ByteOrder) :
    (∀ m : Setup, (∃ bs, m.encode = .ok bs) ↔ IsName m.request ∧ IsName m.response) ∧
    (∀ p q request response, endpointName p = .ok request → endpointName q = .ok response →
      '\x00' ∉ request.toList → '\x00' ∉ response.toList →
      ∃ bs, ({ request, response } : Setup).encode = .ok bs) ∧
    (∀ (m : Setup) bs, m.encode = .ok bs →
      bs.length = 81 ∧ ∃ fields, bs = Opcode.setup.byte :: fields ∧
        ∀ quiet s tail rest, Gives quiet s (fields ++ tail) rest →
          ∃ t, decode order s = (.ok m, t) ∧ Gives quiet t tail rest) ∧
    (∀ request response : List UInt8, request.length = 40 → response.length = 40 →
      ∃ answer, (∀ m, answer = .ok m ↔
          HoldsText request m.request ∧ HoldsText response m.response) ∧
        ∀ quiet s tail rest, Gives quiet s (request ++ response ++ tail) rest →
          ∃ t, decode order s = (answer, t) ∧ Gives quiet t tail rest) ∧
    ∀ s m t, decode order s = (.ok m, t) →
      ∃ fields, m.encode = .ok (Opcode.setup.byte :: fields) ∧
        ∀ quiet s tail rest, Gives quiet s (fields ++ tail) rest →
          ∃ t, decode order s = (.ok m, t) ∧ Gives quiet t tail rest := by
  have sendable : ∀ m : Setup, (∃ bs, m.encode = .ok bs) ↔ IsName m.request ∧ IsName m.response :=
    fun m => ⟨fun ⟨_, sent⟩ => (encode_eq_ok_iff.1 sent).1, fun names =>
      ⟨_, encode_eq_ok_iff.2 ⟨names, rfl⟩⟩⟩
  refine ⟨sendable, ?_, ?_, ?_, ?_⟩
  · intro p q request response hp hq first second
    exact (sendable _).2 ⟨isName_of_endpointName hp first, isName_of_endpointName hq second⟩
  · intro m bs sent
    obtain ⟨⟨first, second⟩, rfl⟩ := encode_eq_ok_iff.1 sent
    refine ⟨?_, _, rfl, consumes_decode_nameField first second⟩
    rw [List.length_cons, List.length_append, length_nameField first, length_nameField second]
    rfl
  · intro request response hrequest hresponse
    obtain ⟨answer, consumes, holds⟩ := decode_of_fields order hrequest hresponse
    exact ⟨answer, holds, consumes⟩
  · intro s m t received
    obtain ⟨_, _, -, -, request, response, -, ⟨hrequest, hresponse⟩, first, second⟩ :=
      spends_decode s m t s.bytes received rfl
    have name := first.isName hrequest
    have name' := second.isName hresponse
    exact ⟨_, encode_eq_ok_iff.2 ⟨⟨name, name'⟩, rfl⟩, consumes_decode_nameField name name'⟩

end

attribute [local instance] Platform.x86_64 in
/-- A name that leaves room for one zero byte only, and one with other bytes behind its zero byte. -/
theorem names_survive_widest :
    let m : Setup := { request := "/tmp/käse/öl/übermut/größe/straße", response := "/tmp/out" }
    let request := nameField m.request
    let response := Utf8.encode m.response ++ 0 :: List.replicate 31 0xFF
    let s : Source := [.data (request.take 7), .interrupted, .data (request.drop 7),
      .data response]
    (∃ bs, m.encode = .ok bs ∧ bs.length = 81) ∧ IsName m.request ∧ HoldsText response m.response ∧
      ∃ t fields, decode .big s = (.ok m, t) ∧ m.encode = .ok (Opcode.setup.byte :: fields) := by
  intro m request response s
  obtain ⟨sendable, endpoints, sent, fields, again⟩ := names_survive .big
  obtain ⟨bs, encoded⟩ := endpoints ⟨Utf8.encode m.request⟩ ⟨Utf8.encode m.response⟩ m.request
    m.response (by decide +kernel) (by decide +kernel) (by decide +kernel) (by decide +kernel)
  obtain ⟨name, -⟩ := (sendable m).1 ⟨bs, encoded⟩
  have holds : HoldsText response m.response := ⟨by decide +kernel, _, rfl⟩
  have gives : Gives false s (request ++ response ++ []) [] := by
    have pieces := (gives_data false (request.drop 7) [.data response]).interrupted.data
      (request.take 7)
    rw [List.take_append_drop] at pieces
    rw [List.append_nil]
    exact pieces.append (gives_data false response [])
  obtain ⟨answer, known, consumes⟩ :=
    fields request response (length_nameField name) (by decide +kernel)
  obtain ⟨t, decoded, -⟩ := consumes false s [] [] gives
  rw [(known m).2 ⟨holdsText_nameField name, holds⟩] at decoded
  obtain ⟨others, encoded_again, -⟩ := again s m t decoded
  exact ⟨⟨bs, encoded, (sent m bs encoded).1⟩, name, holds, t, others, decoded, encoded_again⟩

end Setup

end BoxOffice
