import BoxOffice.Proofs.Stream.Sink
/-!
# Messages one after the other

A message is sent whole or not at all, as far as the sender is told: after a success all of it was taken
(`Sink.written_of_send`), after a failure a front part of it and nothing behind
(`Sink.send_error`).  `Sink.sendAll` sends messages in order up to the first that cannot be sent.
-/

namespace BoxOffice

namespace Sink

/-! ## One message -/

/-- What was delivered without a stop was taken whole. -/
theorem taken_of_delivered {bytes : List UInt8} {writes : List WriteStep}
    (h : (deliver bytes writes).stop = none) : (deliver bytes writes).taken = bytes := by
  induction writes generalizing bytes with
  | nil => rfl
  | cons step writes ih =>
    unfold deliver at h ⊢
    by_cases empty : bytes.isEmpty = true
    · rw [if_pos empty]
      exact (List.isEmpty_iff.1 empty).symm
    · rw [if_neg empty] at h ⊢
      cases step with
      | failed why => cases h
      | interrupted => exact ih h
      | takes most =>
        cases most with
        | zero => cases h
        | succ n =>
          show bytes.take (n + 1) ++ (deliver (bytes.drop (n + 1)) writes).taken = bytes
          rw [ih h, List.take_append_drop]

theorem flush_after (k : Sink) (d : Delivery) :
    (k.after d).flush = (k.flush.1, k.flush.2.after d) := by
  unfold flush after
  dsimp only
  split <;> rfl

/-- Where writing has stopped, flushing is not tried. -/
theorem send_of_stopped {k : Sink} {m : List UInt8} (h : (deliver m k.writes).stop ≠ none) :
    ∃ cause, k.send m = (.error (.transport cause), k.after (deliver m k.writes)) := by
  unfold send
  dsimp only
  split
  · exact ⟨_, rfl⟩
  · exact ⟨_, rfl⟩
  · rename_i all
    exact absurd all h

/-- When all is written, the stream is flushed, and it depends on that what is told. -/
theorem send_of_delivered {k : Sink} {m : List UInt8} (h : (deliver m k.writes).stop = none) :
    k.send m = (match k.flush.1 with
      | some why => .error (.transport (.flushFailed why))
      | none => .ok (), k.flush.2.after (deliver m k.writes)) := by
  unfold send
  dsimp only
  rw [h, flush_after]
  cases k.flush.1 <;> rfl

theorem written_of_send {k k' : Sink} {m : List UInt8} (h : k.send m = (.ok (), k')) :
    k'.written = k.written ++ m := by
  by_cases all : (deliver m k.writes).stop = none
  · rw [send_of_delivered all] at h
    obtain ⟨-, rfl⟩ := Prod.mk.inj h
    rw [written_after, written_flush, taken_of_delivered all]
  · obtain ⟨cause, sent⟩ := send_of_stopped all
    rw [sent] at h
    cases h

/-- After a failure the stream can carry nothing more, and part of the message may have gone out. -/
theorem send_error {k k' : Sink} {m : List UInt8} {fault : Fault}
    (h : k.send m = (.error fault, k')) :
    fault.isTransport = true ∧ ∃ part, part <+: m ∧ k'.written = k.written ++ part := by
  have front := taken_front m k.writes
  by_cases all : (deliver m k.writes).stop = none
  · rw [send_of_delivered all] at h
    obtain ⟨told, rfl⟩ := Prod.mk.inj h
    refine ⟨?_, _, front, ?_⟩
    · split at told
      · cases told
        rfl
      · cases told
    · rw [written_after, written_flush]
  · obtain ⟨cause, sent⟩ := send_of_stopped all
    rw [sent] at h
    cases h
    exact ⟨rfl, _, front, written_after k _⟩

/-! ## Several messages -/

/-- Sends messages in order, up to the first that cannot be sent. -/
def sendAll (k : Sink) : List (List UInt8) → Except Fault Unit × Sink
  | [] => (.ok (), k)
  | m :: ms =>
    match k.send m with
    | (.ok (), k) => k.sendAll ms
    | (.error fault, k) => (.error fault, k)

theorem sendAll_singleton (k : Sink) (m : List UInt8) : k.sendAll [m] = k.send m := by
  unfold sendAll
  rcases k.send m with ⟨_ | ⟨⟩, k'⟩
  · rfl
  · rfl

theorem sendAll_cons_ok {k k' : Sink} {m : List UInt8} {ms : List (List UInt8)} :
    k.sendAll (m :: ms) = (.ok (), k') ↔
      ∃ k₁, k.send m = (.ok (), k₁) ∧ k₁.sendAll ms = (.ok (), k') := by
  show (match k.send m with
    | (.ok (), k) => k.sendAll ms
    | (.error fault, k) => (.error fault, k)) = _ ↔ _
  rcases k.send m with ⟨fault | ⟨⟩, k₁⟩
  · simp
  · simp

theorem sendAll_append_ok {k k' : Sink} {ms ns : List (List UInt8)} :
    k.sendAll (ms ++ ns) = (.ok (), k') ↔
      ∃ k₁, k.sendAll ms = (.ok (), k₁) ∧ k₁.sendAll ns = (.ok (), k') := by
  induction ms generalizing k with
  | nil => simp [sendAll]
  | cons m ms ih =>
    simp only [List.cons_append, sendAll_cons_ok, ih]
    constructor
    · rintro ⟨k₁, first, k₂, others, rest⟩
      exact ⟨k₂, ⟨k₁, first, others⟩, rest⟩
    · rintro ⟨k₂, ⟨k₁, first, others⟩, rest⟩
      exact ⟨k₁, first, k₂, others, rest⟩

theorem written_of_sendAll {k k' : Sink} {ms : List (List UInt8)}
    (h : k.sendAll ms = (.ok (), k')) : k'.written = k.written ++ ms.flatten := by
  induction ms generalizing k with
  | nil =>
    cases h
    exact (List.append_nil _).symm
  | cons m ms ih =>
    obtain ⟨k₁, first, others⟩ := sendAll_cons_ok.1 h
    rw [ih others, written_of_send first, List.flatten_cons, List.append_assoc]

/-- A sink that takes everything takes all messages. -/
theorem Accepting.sendAll {k : Sink} (h : k.Accepting) (ms : List (List UInt8)) :
    ∃ k', k.sendAll ms = (.ok (), k') ∧ k'.Accepting := by
  induction ms generalizing k with
  | nil => exact ⟨k, rfl, h⟩
  | cons m ms ih =>
    obtain ⟨k₁, sent, accepting, -⟩ := h.send m
    obtain ⟨k', others, accepting'⟩ := ih accepting
    exact ⟨k', sendAll_cons_ok.2 ⟨k₁, sent, others⟩, accepting'⟩

end Sink

end BoxOffice
