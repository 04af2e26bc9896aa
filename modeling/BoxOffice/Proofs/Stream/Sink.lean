import BoxOffice.Stream.Sink
/-!
# Sinks that take everything

A sink is `Accepting` when none of its writes takes nothing or fails and none of its flushes fails;
it may take the bytes in pieces and be interrupted.  Such a sink takes every message and every text
whole and stays accepting (`Sink.Accepting.send`, `Sink.Accepting.writeAll`).
-/

namespace BoxOffice

/-- The write takes something, or can be tried again. -/
def WriteStep.isWilling : WriteStep → Bool
  | .takes most => most ≠ 0
  | .interrupted => true
  | .failed _ => false

namespace Sink

/-- In the end the sink takes whatever is written to it, and flushes. -/
structure Accepting (k : Sink) : Prop where
  writes : ∀ w ∈ k.writes, w.isWilling = true
  flushes : ∀ f ∈ k.flushes, f = none

/-- A sink with no schedule takes everything. -/
theorem accepting_nil : ({} : Sink).Accepting :=
  ⟨fun _ hw => absurd hw List.not_mem_nil, fun _ hf => absurd hf List.not_mem_nil⟩

theorem deliver_of_willing (bytes : List UInt8) {writes : List WriteStep}
    (h : ∀ w ∈ writes, w.isWilling = true) :
    ∃ left, deliver bytes writes = ⟨bytes, none, left⟩ ∧ ∀ w ∈ left, w.isWilling = true := by
  induction writes generalizing bytes with
  | nil => exact ⟨[], rfl, h⟩
  | cons step writes ih =>
    obtain ⟨willing, others⟩ := List.forall_mem_cons.1 h
    unfold deliver
    by_cases empty : bytes.isEmpty = true
    · rw [if_pos empty, List.isEmpty_iff.1 empty]
      exact ⟨_, rfl, h⟩
    · rw [if_neg empty]
      cases step with
      | failed why => cases willing
      | interrupted => exact ih bytes others
      | takes most =>
        cases most with
        | zero => cases willing
        | succ n =>
          obtain ⟨left, delivered, rest⟩ := ih (bytes.drop (n + 1)) others
          dsimp only
          rw [delivered]
          refine ⟨left, ?_, rest⟩
          rw [List.take_append_drop]

/-- All bytes are delivered. -/
theorem Accepting.deliver {k : Sink} (h : k.Accepting) (bytes : List UInt8) :
    ∃ left, Sink.deliver bytes k.writes = ⟨bytes, none, left⟩ ∧
      (k.after ⟨bytes, none, left⟩).Accepting := by
  obtain ⟨left, delivered, willing⟩ := deliver_of_willing bytes h.writes
  exact ⟨left, delivered, willing, h.flushes⟩

theorem Accepting.flush {k : Sink} (h : k.Accepting) :
    ∃ k', k.flush = (none, k') ∧ k'.Accepting ∧ k'.written = k.written := by
  unfold Sink.flush
  have all := h.flushes
  cases flushes : k.flushes with
  | nil =>
    rw [flushes] at all
    exact ⟨_, rfl, ⟨h.writes, all⟩, rfl⟩
  | cons f flushes' =>
    rw [flushes] at all
    obtain ⟨rfl, others⟩ := List.forall_mem_cons.1 all
    exact ⟨_, rfl, ⟨h.writes, others⟩, rfl⟩

theorem Accepting.send {k : Sink} (h : k.Accepting) (bytes : List UInt8) :
    ∃ k', k.send bytes = (.ok (), k') ∧ k'.Accepting ∧ k'.written = k.written ++ bytes := by
  obtain ⟨left, delivered, accepting⟩ := h.deliver bytes
  obtain ⟨k', flushed, accepting', written⟩ := accepting.flush
  refine ⟨k', ?_, accepting', written.trans (written_after k _)⟩
  unfold Sink.send
  rw [delivered]
  dsimp only
  rw [flushed]

theorem Accepting.writeAll {k : Sink} (h : k.Accepting) (bytes : List UInt8) :
    ∃ k', k.writeAll bytes = (.ok (), k') ∧ k'.Accepting ∧ k'.written = k.written ++ bytes := by
  obtain ⟨left, delivered, accepting⟩ := h.deliver bytes
  refine ⟨_, ?_, accepting, written_after k _⟩
  unfold Sink.writeAll
  rw [delivered]

theorem Accepting.finish {k : Sink} (h : k.Accepting) :
    ∃ k', k.finish = (.ok (), k') ∧ k'.Accepting ∧ k'.written = k.written := by
  obtain ⟨k', flushed, accepting, written⟩ := h.flush
  refine ⟨k', ?_, accepting, written⟩
  unfold Sink.finish
  rw [flushed]

end Sink

end BoxOffice
