import BoxOffice.Proofs.Seating.Event
import BoxOffice.Seating.Store
import Mathlib.Data.List.Dedup
import Mathlib.Data.List.Nodup
import Mathlib.Data.List.Perm.Subperm
/-!
# What a store does

`Store.Effect` lists what one call can do: it puts an event on sale, it reserves seats, or it leaves
the store as it is.  Whatever holds of every store that calls lead to is proved by looking at these
cases once (`Store.Reachable`, `Store.effect_perform`).

`Store.Sound` is what the other theories need of such stores: no two events have one identifier, and
each event has a grid that fits its seats and that memory was given for.
-/

namespace BoxOffice

/-- The grid of an event fits its seats and could be had under the cap. -/
structure Event.Sound [Platform] (e : Event) (cap : UInt64) : Prop where
  admissible : Event.Admissible e.rows e.cols cap
  size : e.markers.size = e.rows.toNat * e.cols.toNat

theorem Event.Sound.fits [Platform] {e : Event} {cap : UInt64} (h : e.Sound cap) : e.fits = true := by
  unfold Event.fits
  rw [h.size]
  exact beq_self_eq_true _

theorem Event.sound_fresh [Platform] {id : UInt32} {rows cols cap : UInt64}
    (h : Event.Admissible rows cols cap) : (Event.fresh id rows cols).Sound cap :=
  ⟨h, Array.size_replicate⟩

theorem Event.Sound.stamp [Platform] {e : Event} {cap : UInt64} (h : e.Sound cap) (n : UInt32)
    (places : List Nat) : (e.stamp n places).Sound cap :=
  ⟨h.admissible, (Event.size_stamp e n places).trans h.size⟩

namespace Store

/-! ## Looking an event up -/

theorem mem_of_find? {s : Store} {id : UInt32} {e : Event} (h : s.find? id = some e) :
    e ∈ s.events ∧ e.id = id := by
  refine ⟨List.mem_of_find?_eq_some h, ?_⟩
  have := List.find?_some h
  simpa using this

theorem find?_eq_none_iff {s : Store} {id : UInt32} : s.find? id = none ↔ id ∉ s.list := by
  unfold find? list
  rw [List.find?_eq_none, List.mem_map]
  constructor
  · rintro none_has ⟨e, he, rfl⟩
    exact none_has e he (beq_self_eq_true _)
  · intro absent e he same
    exact absent ⟨e, he, by simpa using same⟩

/-- Where identifiers do not repeat, an event is found under its own. -/
theorem find?_of_mem {s : Store} (hs : s.list.Nodup) {e : Event} (he : e ∈ s.events) :
    s.find? e.id = some e := by
  cases found : s.find? e.id with
  | none => exact absurd (List.mem_map_of_mem he) (find?_eq_none_iff.1 found)
  | some e' =>
    obtain ⟨he', same⟩ := mem_of_find? found
    rw [List.inj_on_of_nodup_map hs he' he same]

theorem mem_replace {s : Store} {e d : Event} (h : d ∈ (s.replace e).events) :
    d = e ∨ d ∈ s.events ∧ d.id ≠ e.id := by
  obtain ⟨old, hold, hd⟩ := List.mem_map.1 h
  by_cases same : old.id = e.id
  · rw [if_pos same] at hd
    exact Or.inl hd.symm
  · rw [if_neg same] at hd
    subst hd
    exact Or.inr ⟨hold, same⟩

/-- There are no more events than identifiers. -/
theorem length_list_le {s : Store} (nodup : s.list.Nodup) : s.list.length ≤ UInt32.size := by
  have numbers : (s.list.map UInt32.toNat).Nodup := nodup.map fun _ _ => UInt32.toNat_inj.1
  have small : s.list.map UInt32.toNat ⊆ List.range UInt32.size := by
    intro n hn
    obtain ⟨id, -, rfl⟩ := List.mem_map.1 hn
    exact List.mem_range.2 id.toNat_lt
  have bound := (numbers.subperm small).length_le
  rwa [List.length_map, List.length_range] at bound

/-! ## Reserving -/

theorem reserve_eq_ok_iff {s t : Store} {id : UInt32} {seats : List Seat} {n : UInt32} :
    s.reserve id seats = (.ok n, t) ↔
      ∃ e e', s.find? id = some e ∧ e.reserve seats = .ok (n, e') ∧ t = s.replace e' := by
  unfold reserve
  constructor
  · intro h
    split at h
    · cases h
    · rename_i e found
      split at h
      · cases h
      · rename_i number e' taken
        cases h
        exact ⟨e, e', lookup_eq_ok_iff.1 found, taken, rfl⟩
  · rintro ⟨e, e', found, taken, rfl⟩
    rw [lookup_eq_ok_iff.2 found]
    dsimp only
    rw [taken]

/-- A seat that is named more than once counts once. -/
theorem reserve_dedup {s t : Store} {id : UInt32} {seats : List Seat} {n : UInt32} :
    s.reserve id seats = (.ok n, t) ↔ s.reserve id seats.dedup = (.ok n, t) := by
  rw [reserve_eq_ok_iff, reserve_eq_ok_iff]
  have once : ∀ e e' : Event, e.reserve seats = .ok (n, e') ↔ e.reserve seats.dedup = .ok (n, e') :=
    fun e e' => e.reserve_congr (fun _ => List.mem_dedup.symm) (n, e')
  simp only [once]

/-! ## What a call does -/

variable [Platform]

/-- What one call answers, and the store it leaves. -/
inductive Effect (s : Store) : Call → Answer → Store → Prop
  | created {id : UInt32} {rows cols : UInt64} (absent : s.find? id = none)
      (admissible : Event.Admissible rows cols s.maxEventSeats)
      (room : Platform.grows s.events.length = true) :
      Effect s (.create id rows cols) (.created (.ok ()))
        { s with events := s.events ++ [Event.fresh id rows cols] }
  | notCreated {id : UInt32} {rows cols : UInt64} (fault : Fault) :
      Effect s (.create id rows cols) (.created (.error fault)) s
  | reserved {id : UInt32} {seats : List Seat} {e e' : Event} {n : UInt32}
      (found : s.find? id = some e) (taken : e.reserve seats = .ok (n, e')) :
      Effect s (.reserve id seats) (.reserved (.ok n)) (s.replace e')
  | notReserved {id : UInt32} {seats : List Seat} (fault : Fault) :
      Effect s (.reserve id seats) (.reserved (.error fault)) s
  | viewed (id : UInt32) : Effect s (.view id) (.viewed (s.snapshot id)) s
  | listed : Effect s .list (.listed s.list) s
  | dumped : Effect s .dump (.dumped s.dump) s

theorem effect_perform (s : Store) (c : Call) : Effect s c (s.perform c).1 (s.perform c).2 := by
  cases c with
  | create id rows cols =>
    show Effect s _ (.created (s.create id rows cols).1) (s.create id rows cols).2
    unfold create
    cases absent : s.find? id with
    | some e => exact .notCreated _
    | none =>
      dsimp only
      cases made : Event.bounded id rows cols s.maxEventSeats with
      | error fault => exact .notCreated fault
      | ok e =>
        obtain ⟨admissible, rfl⟩ := Event.bounded_eq_ok_iff.1 made
        dsimp only
        cases room : Memory.growth? s.events.length with
        | some fault => exact .notCreated _
        | none => exact .created absent admissible (Memory.growth?_eq_none_iff.1 room)
  | reserve id seats =>
    show Effect s _ (.reserved (s.reserve id seats).1) (s.reserve id seats).2
    unfold reserve
    cases found : s.lookup id with
    | error fault => exact .notReserved fault
    | ok e =>
      dsimp only
      cases taken : e.reserve seats with
      | error fault => exact .notReserved fault
      | ok result => exact .reserved (lookup_eq_ok_iff.1 found) taken
  | view id => exact .viewed id
  | list => exact .listed
  | dump => exact .dumped

/-! ## Stores that calls lead to -/

/-- What calls make of a store without events. -/
inductive Reachable : Store → Prop
  | empty (maxEventSeats accessDelay : UInt64) : Reachable (Store.empty maxEventSeats accessDelay)
  | perform {s : Store} (h : Reachable s) (c : Call) : Reachable (s.perform c).2

theorem reachable_performAll {s : Store} (h : Reachable s) (calls : List Call) :
    Reachable (s.performAll calls).2 := by
  induction calls generalizing s with
  | nil => exact h
  | cons c calls ih => exact ih (h.perform c)

theorem performAll_append (s : Store) (calls more : List Call) :
    s.performAll (calls ++ more) =
      ((s.performAll calls).1 ++ ((s.performAll calls).2.performAll more).1,
        ((s.performAll calls).2.performAll more).2) := by
  induction calls generalizing s with
  | nil => rfl
  | cons c calls ih =>
    show ((s.perform c).1 :: ((s.perform c).2.performAll (calls ++ more)).1,
      ((s.perform c).2.performAll (calls ++ more)).2) = _
    rw [ih]
    rfl

/-- Identifiers tell events apart, every grid fits, and there is a block for the list. -/
structure Sound (s : Store) : Prop where
  nodup : s.list.Nodup
  events : ∀ e ∈ s.events, e.Sound s.maxEventSeats
  block : Platform.gives (8 * s.events.length) = true

theorem sound_empty (maxEventSeats accessDelay : UInt64) :
    (Store.empty maxEventSeats accessDelay).Sound :=
  ⟨List.nodup_nil, fun _ he => absurd he List.not_mem_nil,
    Platform.gives_of_le (Nat.zero_le _) Platform.gives_fixed⟩

/-- No call spoils a store. -/
theorem Sound.effect {s t : Store} {c : Call} {a : Answer} (h : s.Sound) (he : Effect s c a t) :
    t.Sound := by
  cases he with
  | @created id rows cols absent admissible room =>
    have nodup : (s.events.map (·.id) ++ [id]).Nodup := by
      rw [List.nodup_append']
      refine ⟨h.nodup, List.nodup_singleton _, ?_⟩
      rw [List.disjoint_singleton]
      exact find?_eq_none_iff.1 absent
    have listed : ({ s with events := s.events ++ [Event.fresh id rows cols] } : Store).list =
        s.events.map (·.id) ++ [id] := List.map_append
    rw [← listed] at nodup
    refine ⟨nodup, ?_, ?_⟩
    · intro e he
      rcases List.mem_append.1 he with he | he
      · exact h.events e he
      · rw [List.mem_singleton.1 he]
        exact Event.sound_fresh admissible
    · have few := length_list_le nodup
      rw [listed, List.length_append, List.length_map] at few
      rw [List.length_append]
      exact Platform.gives_of_grows few room
  | @reserved id seats e e' n found taken =>
    refine ⟨?_, ?_, ?_⟩
    · rw [list_replace]
      exact h.nodup
    · intro d hd
      rcases mem_replace hd with rfl | ⟨hd, -⟩
      · obtain ⟨-, -, -, -, -, rfl⟩ := Event.reserve_eq_ok_iff.1 taken
        exact (h.events e (mem_of_find? found).1).stamp _ _
      · exact h.events d hd
    · unfold replace
      rw [List.length_map]
      exact h.block
  | notCreated | notReserved | viewed | listed | dumped => exact h

theorem Reachable.sound {s : Store} (h : s.Reachable) : s.Sound := by
  induction h with
  | empty maxEventSeats accessDelay => exact sound_empty maxEventSeats accessDelay
  | @perform s h c ih => exact ih.effect (effect_perform s c)

/-! ## What is told about a sound store -/

theorem Sound.snapshot {s : Store} (h : s.Sound) {id : UInt32} {e : Event}
    (he : s.find? id = some e) : s.snapshot id = .ok e.shot := by
  unfold Store.snapshot
  rw [lookup_eq_ok_iff.2 he]
  exact Event.snapshot_eq_ok (h.events e (mem_of_find? he).1).fits

/-- A dump tells about the events one by one, in the order of the list. -/
theorem Sound.dump {s : Store} (h : s.Sound) :
    ∃ shots, s.dump = .ok shots ∧ shots.map (·.id) = s.list ∧
      ∀ shot ∈ shots, s.snapshot shot.id = .ok shot := by
  have told : ∀ es : List Event, (∀ e ∈ es, e ∈ s.events) →
      ∃ shots, snapshots es = .ok shots ∧ shots.map (·.id) = es.map (·.id) ∧
        ∀ shot ∈ shots, s.snapshot shot.id = .ok shot := by
    intro es
    induction es with
    | nil => exact fun _ => ⟨[], rfl, rfl, fun _ hs => absurd hs List.not_mem_nil⟩
    | cons e es ih =>
      intro held
      obtain ⟨he, hes⟩ := List.forall_mem_cons.1 held
      obtain ⟨shots, hshots, ids, each⟩ := ih hes
      have hshot := Event.snapshot_eq_ok (h.events e he).fits
      refine ⟨e.shot :: shots, ?_, ?_, List.forall_mem_cons.2 ⟨?_, each⟩⟩
      · unfold snapshots
        rw [hshot, hshots]
      · rw [List.map_cons, ids, List.map_cons]
        rfl
      · exact h.snapshot (find?_of_mem h.nodup he)
  exact told s.events fun _ he => he

end Store

end BoxOffice
