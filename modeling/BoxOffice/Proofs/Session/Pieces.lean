import BoxOffice.Proofs.Session.Cycle
import BoxOffice.Proofs.Wire.Reading
/-!
# Sessions do not see pieces

Two sessions that differ only in the pieces in which their bytes come, and in where they are
interrupted, go step by step through the same states (`Session.step_of_sameBytes`) and so come to the
same end (`Session.run_of_sameBytes`).

Main statement: `Source.SameBytes.unseen`, which says it of the readings too that are no session's.
-/

namespace BoxOffice

open Source

namespace Session

variable {s : Session} {source : Source}

variable [Platform]

theorem awaitOpcode_of_sameBytes (h : SameBytes s.source source) :
    ∃ left, ({ s with source } : Session).awaitOpcode =
        (s.awaitOpcode.1, { s.awaitOpcode.2 with source := left }) ∧
      SameBytes s.awaitOpcode.2.source left := by
  rcases hb : byte? s.source with ⟨answer, u⟩
  obtain ⟨v, hb', left⟩ := seamless_byte?.exists_rest h hb
  unfold awaitOpcode
  dsimp only
  rw [hb, hb']
  rcases answer with fault | _ | b
  · exact ⟨v, rfl, left⟩
  · exact ⟨v, rfl, left⟩
  · dsimp only
    cases Opcode.ofByte b with
    | error fault => exact ⟨v, rfl, left⟩
    | ok op =>
      dsimp only
      rcases hbody : Request.decode s.order s.maxSeats op u with ⟨body, u'⟩
      obtain ⟨v', hbody', left'⟩ :=
        (Request.seamless_decode s.order s.maxSeats op).exists_rest left hbody
      rw [hbody']
      cases body with
      | ok m => exact ⟨v', rfl, left'⟩
      | error fault =>
        dsimp only
        split
        · exact ⟨v', rfl, left'⟩
        · exact ⟨v', rfl, left'⟩

/-- The stream is left alone by what a session does between two opcodes. -/
theorem dispatch_with_source (s : Session) (source : Source) :
    ({ s with source } : Session).dispatch = (s.dispatch.1, { s.dispatch.2 with source }) ∧
      s.dispatch.2.source = s.source := by
  unfold dispatch
  dsimp only
  split
  · exact ⟨rfl, rfl⟩
  · exact ⟨rfl, rfl⟩
  · exact ⟨rfl, rfl⟩

omit [Platform] in
theorem respond_with_source (s : Session) (source : Source) :
    ({ s with source } : Session).respond = (s.respond.1, { s.respond.2 with source }) ∧
      s.respond.2.source = s.source := by
  unfold respond
  dsimp only
  split
  · exact ⟨rfl, rfl⟩
  · split
    · exact ⟨rfl, rfl⟩
    · exact ⟨rfl, rfl⟩

/-- A step shows nothing of the pieces in which the bytes come. -/
theorem step_of_sameBytes (h : SameBytes s.source source) :
    ∃ left, ({ s with source } : Session).step = (s.step.1, { s.step.2 with source := left }) ∧
      SameBytes s.step.2.source left := by
  have phases : s.phase = .awaitOpcode ∨ s.phase = .dispatch ∨ s.phase = .respond := by
    cases s.phase <;> decide
  rcases phases with phase | phase | phase
  · rw [step_of_await phase, step_of_await (s := { s with source }) phase]
    exact awaitOpcode_of_sameBytes h
  · obtain ⟨same, kept⟩ := dispatch_with_source s source
    rw [step_of_dispatch phase, step_of_dispatch (s := { s with source }) phase]
    exact ⟨source, same, kept ▸ h⟩
  · obtain ⟨same, kept⟩ := respond_with_source s source
    rw [step_of_respond phase, step_of_respond (s := { s with source }) phase]
    exact ⟨source, same, kept ▸ h⟩

/-- A run comes to the same, whatever the pieces. -/
theorem run_of_sameBytes (h : SameBytes s.source source) :
    ∃ left, ({ s with source } : Session).run = (s.run.1, { s.run.2 with source := left }) ∧
      SameBytes s.run.2.source left := by
  generalize hw : s.fuel = w
  induction w using Nat.strongRecOn generalizing s source with
  | ind w ih =>
    subst hw
    obtain ⟨left, same, h'⟩ := step_of_sameBytes h
    rcases step : s.step with ⟨_ | ending, t⟩
    · rw [step] at same h'
      rw [run_of_step step, run_of_step same]
      exact ih _ (step_lt step) h' rfl
    · rw [step] at same h'
      rw [run_of_step_some step, run_of_step_some same]
      exact ⟨left, rfl, h'⟩

end Session

section

variable [Platform]

/-- Nothing shows in what pieces the bytes of a stream come, or where it is interrupted.  Whatever is
read of it gives the same, faults and their words included, and leaves the same bytes; and a session on
it sends the same replies, leaves the same store, counts the same and comes to the same end. -/
theorem Source.SameBytes.unseen {s t : Source} (h : SameBytes s t) :
    (∀ order readings,
      (Reading.answerAll order readings s).1 = (Reading.answerAll order readings t).1 ∧
        (Reading.answerAll order readings s).2.bytes = (Reading.answerAll order readings t).2.bytes) ∧
    ∀ session : Session, ∃ (ending : Ending) (u : Session) (left left' : Source),
      ({ session with source := s } : Session).run = (ending, { u with source := left }) ∧
        ({ session with source := t } : Session).run = (ending, { u with source := left' }) ∧
        left.bytes = left'.bytes := by
  constructor
  · intro order readings
    obtain ⟨answers, left⟩ := Reading.answerAll_of_sameBytes order readings h
    exact ⟨answers, left.bytes⟩
  · intro session
    obtain ⟨left', same, left⟩ := Session.run_of_sameBytes (s := { session with source := s }) h
    exact ⟨_, _, _, left', rfl, same, left.bytes⟩

end

attribute [local instance] Platform.x86_64 in
/-- An event is put on sale and the stream ends within the next request: its bytes come at once, or in
three pieces with an interruption. -/
theorem Source.SameBytes.unseen_in_pieces :
    let m : Request := .create 7 1 2
    let bytes := m.encode .big ++ [0x35, 0, 0]
    let s : Source := [.data bytes]
    let t : Source := [.data (bytes.take 3), .interrupted, .data [], .data (bytes.drop 3), .closed]
    let session (source : Source) : Session :=
      { id := 1, order := .big, maxSeats := 2, store := .empty 9 0, source }
    let readings : List Reading := [.opcode, .frame 4 [.word32], .skip 700]
    SameBytes s t ∧
      (Reading.answerAll .big readings s).1 = (Reading.answerAll .big readings t).1 ∧
      ∃ (ending : Ending) (u : Session) (left left' : Source),
        (session s).run = (ending, { u with source := left }) ∧
          (session t).run = (ending, { u with source := left' }) ∧
          left.bytes = left'.bytes := by
  intro m bytes s t session readings
  have same : SameBytes s t := ⟨by decide, by decide, by decide⟩
  exact ⟨same, (same.unseen.1 .big readings).1, same.unseen.2 (session s)⟩

end BoxOffice
