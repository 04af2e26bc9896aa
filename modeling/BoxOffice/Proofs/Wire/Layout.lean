import BoxOffice.Proofs.Wire.Taken
/-!
# How messages are laid out

A `Layout` says of a message what frames it is received in and what is taken from each; what is in a
frame says what comes behind it, however much that is.

A layout is `Exact` when each frame is as long as the fields that are taken from it.  Then a message that
is received leaves nothing of its frames (`Layout.Exact.whole`), and one that is not is refused for its
contents and never for want of bytes in a frame (`Layout.Exact.among`).
-/

namespace BoxOffice

open Source

/-! ## Faults of messages -/

/-- If the fault is one of a message, it is one of these. -/
def Fault.Among (causes : ProtocolCause → Prop) : Fault → Prop
  | .protocol cause => causes cause
  | _ => True

/-- Whenever the step fails, it is with such a fault. -/
def Attempt.Fails {σ α : Type} (r : Attempt σ α) (p : Fault → Prop) : Prop :=
  ∀ s fault t, r.run s = (.error fault, t) → p fault

section

variable {σ α β : Type} {p : Fault → Prop}

instance : LawfulMonad (Attempt σ) := LawfulMonad.mk' (Attempt σ)
  (fun r => by
    funext s
    show Attempt.andThen r Attempt.give s = r s
    unfold Attempt.andThen
    rcases r s with ⟨fault | a, t⟩ <;> rfl)
  (fun _ _ => rfl)
  (fun r next last => by
    funext s
    show Attempt.andThen (Attempt.andThen r next) last s =
      Attempt.andThen r (fun a => Attempt.andThen (next a) last) s
    unfold Attempt.andThen
    rcases r s with ⟨fault | a, t⟩ <;> rfl)

theorem Attempt.fails_pure (a : α) : (pure a : Attempt σ α).Fails p := by
  rintro s fault t ⟨⟩

theorem Attempt.fails_fail {fault : Fault} (h : p fault) :
    (Attempt.fail fault : Attempt σ α).Fails p := by
  rintro s _ t ⟨⟩
  exact h

theorem Attempt.Fails.bind {r : Attempt σ α} {next : α → Attempt σ β} (hr : r.Fails p)
    (hn : ∀ a, (next a).Fails p) : (r >>= next).Fails p := by
  intro s fault t h
  rw [Attempt.run_bind] at h
  split at h
  · exact hn _ _ _ _ h
  · rename_i e
    cases h
    exact hr _ _ _ e

end

namespace Source

variable {causes : ProtocolCause → Prop}

/-- A stream that stops is no fault of a message. -/
theorem fails_exactly (n : Nat) : (exactly n).Fails (·.Among causes) := by
  intro s fault t h
  unfold Attempt.run exactly at h
  dsimp only at h
  split at h
  · cases h
  · rename_i halt _
    cases h
    cases halt with
    | closed | failed => trivial

theorem fails_skip (count : Nat) : (skip count).Fails (·.Among causes) := by
  have pieces : ∀ k, (skipPieces k).Fails (·.Among causes) := by
    intro k
    induction k with
    | zero => exact Attempt.fails_pure _
    | succ k ih => exact (fails_exactly _).bind fun _ => ih
  exact (pieces _).bind fun _ => (fails_exactly _).bind fun _ => Attempt.fails_pure _

variable [Platform]

theorem fails_frame (order : ByteOrder) (length : Nat) :
    (frame order length).Fails (·.Among causes) := by
  unfold frame
  split
  · exact Attempt.fails_fail trivial
  · exact (fails_exactly length).bind fun _ => Attempt.fails_pure _

theorem length_of_frame {order : ByteOrder} {length : Nat} {s t : Source} {f : Frame}
    (h : (frame order length).run s = (.ok f, t)) : f.bytes.length = length := by
  obtain ⟨_, _, -, -, rfl, full, -⟩ := spends_frame order length s f t s.bytes h rfl
  exact full

end Source

/-! ## What is taken from a frame -/

namespace Frame

variable {α β : Type} {take : Attempt Frame α} {next : α → Attempt Frame β} {m n : Nat}
  {causes : ProtocolCause → Prop}

/-- Where there are so many bytes, just these are taken, or the fault is none but these. -/
def Fills (take : Attempt Frame α) (width : Nat) (causes : ProtocolCause → Prop) : Prop :=
  ∀ f : Frame, width ≤ f.bytes.length →
    (∃ a, take.run f = (.ok a, { f with bytes := f.bytes.drop width })) ∨
      ∃ fault g, take.run f = (.error fault, g) ∧ fault.Among causes

theorem fills_pure (a : α) : Fills (pure a) 0 causes := fun _ _ => .inl ⟨a, rfl⟩

theorem fills_fail (fault : Fault) (h : fault.Among causes) (width : Nat) :
    Fills (.fail fault : Attempt Frame α) width causes :=
  fun f _ => .inr ⟨fault, f, rfl, h⟩

theorem Fills.bind (ht : Fills take m causes) (hn : ∀ a, Fills (next a) n causes) :
    Fills (take >>= next) (m + n) causes := by
  intro f enough
  rcases ht f (by omega) with ⟨a, taken⟩ | ⟨fault, g, failed, among⟩
  · have left : n ≤ (f.bytes.drop m).length := by
      rw [List.length_drop]
      omega
    rw [Attempt.run_bind_ok taken, ← List.drop_drop]
    exact hn a { f with bytes := f.bytes.drop m } left
  · exact .inr ⟨fault, g, Attempt.run_bind_error failed, among⟩

theorem Fills.map (ht : Fills take m causes) (hn : ∀ a, Fills (next a) 0 causes) :
    Fills (take >>= next) m causes := ht.bind hn

theorem fills_raw (width : Nat) : Fills (raw width) width causes := by
  intro f enough
  refine .inl ⟨f.bytes.take width, ?_⟩
  unfold Attempt.run raw
  dsimp only
  rw [if_neg]
  rw [List.length_take_of_le enough]
  exact Nat.lt_irrefl width

variable [Platform]

theorem fills_number (width : Nat) : Fills (number width) width causes := by
  intro f enough
  have piece : Fills (raw width) width causes := fills_raw width
  rcases piece f enough with ⟨piece, taken⟩ | ⟨fault, g, failed, among⟩
  · refine .inl ⟨f.order.read piece, ?_⟩
    unfold Attempt.run number
    rw [show raw width f = _ from taken]
  · refine .inr ⟨fault, g, ?_, among⟩
    unfold Attempt.run number
    rw [show raw width f = _ from failed]

theorem fills_word32 : Fills word32 4 causes := (fills_number 4).map fun _ => fills_pure _

theorem fills_int32 : Fills int32 4 causes := fills_word32.map fun _ => fills_pure _

theorem fills_word64 : Fills word64 8 causes := (fills_number 8).map fun _ => fills_pure _

omit [Platform] in
/-- A text field is gone as a whole, or it holds no text. -/
theorem fills_text {width : Nat} (unterminated : causes (.unterminated width))
    (not_text : ∀ fault, causes (.notText fault)) : Fills (text width) width causes := by
  refine (fills_raw width).map fun piece => ?_
  split
  · split
    · exact fills_pure _
    · exact fills_fail (.protocol (.notText _)) (not_text _) 0
  · exact fills_fail (.protocol (.unterminated width)) unterminated 0

omit [Platform] in
theorem fills_manyAfter {width : Nat} (each : Fills take width causes) (count : Nat)
    (before : List α) : Fills (manyAfter take count before) (count * width) causes := by
  induction count generalizing before with
  | zero =>
    rw [Nat.zero_mul]
    exact fills_pure before.reverse
  | succ count ih =>
    -- one value, and then the others with it among those before
    have step : manyAfter take (count + 1) before =
        (take >>= fun a => manyAfter take count (a :: before)) := by
      funext f
      show manyAfter take (count + 1) before f = Attempt.andThen take _ f
      unfold manyAfter Attempt.andThen
      rcases take f with ⟨fault | a, g⟩
      · rfl
      · rfl
    rw [step, Nat.add_mul, Nat.one_mul, Nat.add_comm]
    exact each.bind fun a => ih (a :: before)

theorem fills_many {width : Nat} (each : Fills take width causes) (memory count : Nat) :
    Fills (many take memory count) (count * width) causes := by
  unfold many
  split
  · exact fills_fail (.allocation _) trivial _
  · exact fills_manyAfter each count []

end Frame

namespace Source

variable {α : Type} {take : Attempt Frame α} {length : Nat} {causes : ProtocolCause → Prop}

variable [Platform]

/-- A frame that is as long as its fields is not too short for them. -/
theorem fails_fields {order : ByteOrder} (fills : Frame.Fills take length causes) :
    (fields order length take).Fails (·.Among causes) := by
  intro s fault t h
  unfold Attempt.run fields at h
  split at h
  · rename_i f rest received
    have full := length_of_frame received
    rcases fills f (Nat.le_of_eq full.symm) with ⟨a, taken⟩ | ⟨fault', g, failed, among⟩
    · rw [show take f = _ from taken] at h
      cases h
    · rw [show take f = _ from failed] at h
      cases h
      exact among
  · rename_i received
    cases h
    exact fails_frame order length _ _ _ received

/-- When its fields are taken, nothing of such a frame is left. -/
theorem exists_of_fields {order : ByteOrder} {s t : Source} {a : α}
    (fills : Frame.Fills take length causes) (h : (fields order length take).run s = (.ok a, t)) :
    ∃ f, (frame order length).run s = (.ok f, t) ∧ take.run f = (.ok a, { f with bytes := [] }) := by
  unfold Attempt.run fields at h
  split at h
  · rename_i f rest received
    have full := length_of_frame received
    rcases fills f (Nat.le_of_eq full.symm) with ⟨b, taken⟩ | ⟨fault, g, failed, -⟩
    · rw [show take f = _ from taken] at h
      cases h
      rw [← full, List.drop_length] at taken
      exact ⟨f, received, taken⟩
    · rw [show take f = _ from failed] at h
      cases h
  · cases h

end Source

/-! ## Layouts -/

/-- What a message is received in, one thing after the other. -/
inductive Layout (α : Type) : Type 1 where
  /-- The message is whole. -/
  | value (a : α)
  /-- It cannot be one. -/
  | refuse (fault : Fault)
  /-- A frame of so many bytes, with fields that say what comes next. -/
  | frame {β : Type} (length : Nat) (take : Attempt Frame β) (next : β → Layout α)
  /-- So many bytes that nobody wants. -/
  | skip (count : Nat) (next : Layout α)

namespace Layout

variable {α : Type}

variable [Platform]

/-- Receives a message that is laid out like this. -/
def decode (order : ByteOrder) : Layout α → Attempt Source α
  | value a => pure a
  | refuse fault => .fail fault
  | frame length take next => Source.fields order length take >>= fun b => (next b).decode order
  | skip count next => Source.skip count >>= fun _ => next.decode order

/-- What is left of each frame that is received, in order, when the last of its fields is taken. -/
def leftOver (order : ByteOrder) : Layout α → Source → List Frame
  | value _, _ | refuse _, _ => []
  | frame length take next, s =>
    match (Source.frame order length).run s with
    | (.error _, _) => []
    | (.ok f, s) =>
      match take.run f with
      | (.error _, f) => [f]
      | (.ok b, f) => f :: (next b).leftOver order s
  | skip count next, s =>
    match (Source.skip count).run s with
    | (.error _, _) => []
    | (.ok (), s) => next.leftOver order s

/-- Every frame is as long as its fields, and the message is refused for no cause but these. -/
def Exact (causes : ProtocolCause → Prop) : Layout α → Prop
  | value _ => True
  | refuse fault => fault.Among causes
  | frame length take next => Frame.Fills take length causes ∧ ∀ b, (next b).Exact causes
  | skip _ next => next.Exact causes

variable {causes : ProtocolCause → Prop} {l : Layout α}

/-- A message that is received whole leaves nothing of its frames. -/
theorem Exact.whole (h : l.Exact causes) {order : ByteOrder} {s t : Source} {a : α}
    (decoded : (l.decode order).run s = (.ok a, t)) : ∀ f ∈ l.leftOver order s, f.bytes = [] := by
  induction l generalizing s with
  | value | refuse => exact fun _ hf => absurd hf List.not_mem_nil
  | frame length take next ih =>
    obtain ⟨fills, rest⟩ := h
    unfold decode at decoded
    rw [Attempt.run_bind] at decoded
    split at decoded
    · rename_i b u fields
      obtain ⟨f, received, taken⟩ := exists_of_fields fills fields
      unfold leftOver
      rw [received]
      dsimp only
      rw [taken]
      exact List.forall_mem_cons.2 ⟨rfl, ih b (rest b) decoded⟩
    · cases decoded
  | skip count next ih =>
    unfold decode at decoded
    rw [Attempt.run_bind] at decoded
    split at decoded
    · rename_i u skipped
      unfold leftOver
      rw [skipped]
      exact ih h decoded
    · cases decoded

/-- A message is refused for no cause but these. -/
theorem Exact.among (h : l.Exact causes) (order : ByteOrder) :
    (l.decode order).Fails (·.Among causes) := by
  induction l with
  | value a => exact Attempt.fails_pure a
  | refuse fault => exact Attempt.fails_fail h
  | skip count next ih => exact (fails_skip count).bind fun _ => ih h
  | frame length take next ih =>
    obtain ⟨fills, rest⟩ := h
    exact (fails_fields fills).bind fun b => ih b (rest b)

end Layout

end BoxOffice
