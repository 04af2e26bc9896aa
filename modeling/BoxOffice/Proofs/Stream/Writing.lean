import BoxOffice.Proofs.Stream.Sending
/-!
# Writes one by one

A message is written by as many writes as it takes.  `Due data made` says that each of the writes
`made` had a reason: part of the message was still to be written, and no write before had gone wrong.
After the writes that were due either all of the message is taken or the last of them went wrong
(`exists_made`); only in the first case is the stream flushed, and then once.

Main statement: `Sink.send_whole_or_told`.
-/

namespace BoxOffice

/-- How many bytes a write can take. -/
def WriteStep.room : WriteStep → Nat
  | .takes most => most
  | .interrupted | .failed _ => 0

namespace Sink

/-- How many bytes some writes can take together. -/
def room : List WriteStep → Nat
  | [] => 0
  | w :: made => w.room + room made

/-- Before each of the writes something was left to write, and every write had taken something or
could be tried again. -/
def Due (data : List UInt8) (made : List WriteStep) : Prop :=
  ∀ before w after, made = before ++ w :: after →
    room before < data.length ∧ ∀ v ∈ before, v.isWilling = true

variable {k : Sink} {data : List UInt8} {w : WriteStep} {writes made : List WriteStep}

/-! ## The writes of a delivery -/

theorem due_nil (data : List UInt8) : Due data [] := by
  intro before w after split
  exact absurd split.symm (List.append_ne_nil_of_right_ne_nil _ (List.cons_ne_nil _ _))

/-- There is always a reason for the first write. -/
theorem due_singleton (more : data ≠ []) (w : WriteStep) : Due data [w] := by
  intro before v after split
  cases before with
  | nil => exact ⟨List.length_pos_iff.2 more, fun _ h => absurd h List.not_mem_nil⟩
  | cons u before => cases before <;> cases split

theorem Due.cons (more : data ≠ []) (willing : w.isWilling = true)
    (h : Due (data.drop w.room) made) : Due data (w :: made) := by
  intro before v after split
  cases before with
  | nil => exact ⟨List.length_pos_iff.2 more, fun _ h => absurd h List.not_mem_nil⟩
  | cons u before =>
    obtain ⟨rfl, split'⟩ := List.cons.inj split
    obtain ⟨left, others⟩ := h before v after split'
    rw [List.length_drop] at left
    exact ⟨Nat.add_lt_of_lt_sub' left, List.forall_mem_cons.2 ⟨willing, others⟩⟩

theorem deliver_nil (writes : List WriteStep) : deliver [] writes = ⟨[], none, writes⟩ := by
  cases writes <;> rfl

/-- What a write takes is gone, and the rest of the data is left to the next. -/
theorem deliver_of_willing_cons (more : data ≠ []) (willing : w.isWilling = true)
    (writes : List WriteStep) :
    deliver data (w :: writes) =
      { deliver (data.drop w.room) writes with
        taken := data.take w.room ++ (deliver (data.drop w.room) writes).taken } := by
  conv => lhs; unfold deliver
  rw [if_neg (mt List.isEmpty_iff.1 more)]
  cases w with
  | failed why => cases willing
  | interrupted => rfl
  | takes most =>
    cases most with
    | zero => cases willing
    | succ n => rfl

/-- Nothing is tried after a write that went wrong. -/
theorem deliver_of_unwilling_cons (more : data ≠ []) (unwilling : w.isWilling = false)
    (writes : List WriteStep) :
    w.room = 0 ∧ ∃ why, deliver data (w :: writes) = ⟨[], some why, writes⟩ := by
  unfold deliver
  rw [if_neg (mt List.isEmpty_iff.1 more)]
  cases w with
  | failed why => exact ⟨rfl, _, rfl⟩
  | interrupted => cases unwilling
  | takes most =>
    cases most with
    | zero => exact ⟨rfl, _, rfl⟩
    | succ n => cases unwilling

/-- All of the data was taken, in these writes or, when no other was to come, by one more that took
what they had left. -/
structure Delivered (data : List UInt8) (made : List WriteStep) (d : Delivery) : Prop where
  willing : ∀ w ∈ made, w.isWilling = true
  stop : d.stop = none
  taken : d.taken = data
  enough : data.length ≤ room made ∨ d.writes = []

/-- One of the writes went wrong, and there was no room for all of the data before. -/
structure Refused (data : List UInt8) (made : List WriteStep) (d : Delivery) : Prop where
  unwilling : ∃ w ∈ made, w.isWilling = false
  stop : d.stop ≠ none
  taken : d.taken = data.take (room made)
  short : room made < data.length

/-- A delivery makes the writes that are due, and these alone tell what became of it. -/
theorem exists_made (data : List UInt8) (writes : List WriteStep) :
    ∃ made, writes = made ++ (deliver data writes).writes ∧ Due data made ∧
      (Delivered data made (deliver data writes) ∨ Refused data made (deliver data writes)) := by
  induction writes generalizing data with
  | nil => exact ⟨[], rfl, due_nil data, .inl ⟨nofun, rfl, rfl, .inr rfl⟩⟩
  | cons w writes ih =>
    by_cases more : data = []
    · subst more
      rw [deliver_nil]
      exact ⟨[], rfl, due_nil [], .inl ⟨nofun, rfl, rfl, .inl (Nat.le_refl 0)⟩⟩
    cases willing : w.isWilling with
    | false =>
      obtain ⟨nothing, why, stopped⟩ := deliver_of_unwilling_cons more willing writes
      have none_taken : room [w] = 0 := by rw [room, nothing, room]
      rw [stopped]
      refine ⟨[w], rfl, due_singleton more w, .inr ⟨⟨w, List.mem_singleton_self w, willing⟩,
        nofun, ?_, ?_⟩⟩
      · rw [none_taken, List.take_zero]
      · rw [none_taken]
        exact List.length_pos_iff.2 more
    | true =>
      obtain ⟨made, split, due, course⟩ := ih (data.drop w.room)
      rw [deliver_of_willing_cons more willing]
      refine ⟨w :: made, congrArg (w :: ·) split, due.cons more willing, ?_⟩
      rcases course with all | refused
      · refine .inl ⟨List.forall_mem_cons.2 ⟨willing, all.willing⟩, all.stop, ?_, ?_⟩
        · rw [all.taken, List.take_append_drop]
        · refine all.enough.imp_left fun enough => ?_
          rw [List.length_drop] at enough
          exact Nat.sub_le_iff_le_add'.1 enough
      · obtain ⟨v, hv, unwilling⟩ := refused.unwilling
        have short := refused.short
        rw [List.length_drop] at short
        refine .inr ⟨⟨v, List.mem_cons_of_mem w hv, unwilling⟩, refused.stop, ?_, ?_⟩
        · rw [refused.taken, room, List.take_add]
        · exact Nat.add_lt_of_lt_sub' short

/-! ## Sending -/

/-- **A message is sent whole, or the sender is told.**  What is taken is a front part of it, and all of
it just when none of the writes that were due went wrong: each took something or could be tried again.
Sending succeeds just when, besides, the flush that follows does; this is the only one, and there is
none while something is still to be written.  A failure is always one of the stream. -/
theorem send_whole_or_told (k : Sink) (data : List UInt8) :
    ∃ made taken,
      (k.writes = made ++ (k.send data).2.writes ∧ Due data made) ∧
      ((k.send data).2.written = k.written ++ taken ∧ taken <+: data) ∧
      (taken = data ↔ ∀ w ∈ made, w.isWilling = true) ∧
      (taken = data → data.length ≤ room made ∨ (k.send data).2.writes = []) ∧
      ((k.send data).1 = .ok () ↔ (∀ w ∈ made, w.isWilling = true) ∧ k.flush.1 = none) ∧
      ((k.send data).2.flushes, (k.send data).2.flushed) =
        (if taken = data then (k.flush.2.flushes, k.flush.2.flushed) else (k.flushes, k.flushed)) ∧
      ∀ fault, (k.send data).1 = .error fault → ∃ cause, fault = .transport cause := by
  obtain ⟨made, split, due, all | refused⟩ := exists_made data k.writes
  · have written : (k.flush.2.after (deliver data k.writes)).written = k.written ++ data := by
      rw [written_after, written_flush, all.taken]
    rw [send_of_delivered all.stop]
    refine ⟨made, data, ⟨split, due⟩, ⟨written, List.prefix_rfl⟩, ?_, fun _ => all.enough, ?_,
      (if_pos rfl).symm, ?_⟩
    · exact iff_of_true rfl all.willing
    · cases k.flush.1 with
      | none => exact iff_of_true rfl ⟨all.willing, rfl⟩
      | some why => exact iff_of_false nofun fun h => nomatch h.2
    · intro fault told
      cases flushed : k.flush.1 with
      | none =>
        rw [flushed] at told
        cases told
      | some why =>
        rw [flushed] at told
        cases told
        exact ⟨_, rfl⟩
  · obtain ⟨v, hv, unwilling⟩ := refused.unwilling
    have some_wrong : ¬ ∀ w ∈ made, w.isWilling = true := by
      intro willing
      rw [willing v hv] at unwilling
      cases unwilling
    have part : data.take (room made) ≠ data := by
      intro whole
      have := List.length_take_le (room made) data
      rw [whole] at this
      exact absurd refused.short (Nat.not_lt.2 this)
    have written := written_after k (deliver data k.writes)
    rw [refused.taken] at written
    obtain ⟨cause, sent⟩ := send_of_stopped refused.stop
    rw [sent]
    refine ⟨made, data.take (room made), ⟨split, due⟩, ⟨written, List.take_prefix _ data⟩, ?_, ?_,
      ?_, (if_neg part).symm, ?_⟩
    · exact iff_of_false part some_wrong
    · exact fun whole => absurd whole part
    · exact iff_of_false nofun fun h => some_wrong h.1
    · rintro fault ⟨⟩
      exact ⟨cause, rfl⟩

end Sink

end BoxOffice
