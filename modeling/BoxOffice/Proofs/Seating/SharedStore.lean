import BoxOffice.Proofs.Seating.History
/-!
# Many workers at one store

Workers do their errands at one store, all at the same time.  What is done under one guard is one step
(`SharedStore.Step`): an event is put on sale, or the list is read, in one; whoever wants something of
an event looks it up in one step and is served in another, and in between the others go on.

`SharedStore.Course` is any order of such steps, with a book of what was answered.  An event never
leaves its place in the list (`Store.Keeps`), so whoever has found it is served where it was found
(`SharedStore.Steady`), and each entry of the book is what one call on the store would have answered
(`SharedStore.Step.performAll`).

Main statement: `SharedStore.course_in_turn`.
-/

namespace BoxOffice

/-! ## Errands -/

/-- What a worker can want of one event. -/
inductive Wish where
  | reserve (seats : List Seat)
  | view
  deriving DecidableEq, Repr

/-- What a worker can want of the store.  A dump is not among this: it is told event by event, and
so not at one moment. -/
inductive Errand where
  | create (id : UInt32) (rows cols : UInt64)
  | list
  | about (id : UInt32) (wish : Wish)
  deriving DecidableEq, Repr

/-- The call that does all of the errand at once. -/
def Errand.call : Errand → Store.Call
  | .create id rows cols => .create id rows cols
  | .list => .list
  | .about id (.reserve seats) => .reserve id seats
  | .about id .view => .view id

namespace Wish

/-- The answer that the wish cannot be granted. -/
def refuse (fault : Fault) : Wish → Store.Answer
  | .reserve _ => .reserved (.error fault)
  | .view => .viewed (.error fault)

/-- What is answered under the guard of an event, and what becomes of the event. -/
def serve (e : Event) : Wish → Store.Answer × Event
  | .reserve seats =>
    match e.reserve seats with
    | .error fault => (.reserved (.error fault), e)
    | .ok (n, e') => (.reserved (.ok n), e')
  | .view => (.viewed e.snapshot, e)

end Wish

namespace Store

/-- The place of the first event with this identifier. -/
def place? (s : Store) (id : UInt32) : Option Nat := s.events.findIdx? (·.id == id)

/-- The store with `e` at this place. -/
def put (s : Store) (place : Nat) (e : Event) : Store := { s with events := s.events.set place e }

end Store

/-! ## The shared store -/

/-- What is wanted of an event that was found.  Events are never moved, so its place stands for it. -/
structure Finding where
  id : UInt32
  wish : Wish
  place : Nat
  deriving DecidableEq, Repr

/-- Someone with errands. -/
structure Worker where
  /-- Those that are not begun, in order. -/
  errands : List Errand
  /-- The one that is begun. -/
  found : Option Finding := none
  deriving DecidableEq, Repr

/-- The errands that are not over. -/
def Worker.left (p : Worker) : List Errand :=
  match p.found with
  | some goal => .about goal.id goal.wish :: p.errands
  | none => p.errands

/-- A store and those who have errands there. -/
structure SharedStore where
  store : Store
  workers : List Worker

namespace SharedStore

/-- An errand that is over, and whose it was. -/
structure Entry where
  worker : Nat
  errand : Errand
  answer : Store.Answer

/-- The calls and answers of a book. -/
def told (book : List Entry) : Log := book.map fun entry => (entry.errand.call, entry.answer)

/-- Worker `i` is through with an errand, which leaves the store `t`. -/
def leave (h : SharedStore) (i : Nat) (rest : List Errand) (t : Store) : SharedStore where
  store := t
  workers := h.workers.set i { errands := rest }

/-- Worker `i` has found an event. -/
def enter (h : SharedStore) (i : Nat) (rest : List Errand) (goal : Finding) : SharedStore where
  store := h.store
  workers := h.workers.set i { errands := rest, found := some goal }

variable [Platform]

/-- What worker `i` can do next, and the entry that this makes. -/
inductive Step (h : SharedStore) (i : Nat) : List Entry → SharedStore → Prop where
  /-- An event is put on sale, or not, under the guard of the list. -/
  | create {id : UInt32} {rows cols : UInt64} {rest : List Errand}
      (here : h.workers[i]? = some { errands := .create id rows cols :: rest }) :
      Step h i [⟨i, .create id rows cols, .created (h.store.create id rows cols).1⟩]
        (h.leave i rest (h.store.create id rows cols).2)
  /-- The list is read. -/
  | list {rest : List Errand} (here : h.workers[i]? = some { errands := .list :: rest }) :
      Step h i [⟨i, .list, .listed h.store.list⟩] (h.leave i rest h.store)
  /-- An event is looked for that is not there. -/
  | miss {id : UInt32} {wish : Wish} {rest : List Errand}
      (here : h.workers[i]? = some { errands := .about id wish :: rest })
      (absent : h.store.place? id = none) :
      Step h i [⟨i, .about id wish, wish.refuse (.eventNotFound id)⟩] (h.leave i rest h.store)
  /-- An event is found. -/
  | find {id : UInt32} {wish : Wish} {rest : List Errand} {place : Nat}
      (here : h.workers[i]? = some { errands := .about id wish :: rest })
      (found : h.store.place? id = some place) :
      Step h i [] (h.enter i rest ⟨id, wish, place⟩)
  /-- An event is found of which no seats are wanted; to refuse this needs no further guard. -/
  | idle {id : UInt32} {rest : List Errand} {place : Nat}
      (here : h.workers[i]? = some { errands := .about id (.reserve []) :: rest })
      (found : h.store.place? id = some place) :
      Step h i [⟨i, .about id (.reserve []), .reserved (.error .emptyReservation)⟩]
        (h.leave i rest h.store)
  /-- The event that was found is asked for what was wanted, under its own guard. -/
  | serve {goal : Finding} {rest : List Errand} {e : Event}
      (here : h.workers[i]? = some { errands := rest, found := some goal })
      (there : h.store.events[goal.place]? = some e) :
      Step h i [⟨i, .about goal.id goal.wish, (goal.wish.serve e).1⟩]
        (h.leave i rest (h.store.put goal.place (goal.wish.serve e).2))

/-- What can come of workers with these errands, and the book of what was answered: an errand is
entered with its last step. -/
inductive Course (s : Store) (programs : List (List Errand)) : SharedStore → List Entry → Prop where
  | start : Course s programs ⟨s, programs.map fun errands => { errands }⟩ []
  | next {h h' : SharedStore} {book entries : List Entry} {i : Nat}
      (course : Course s programs h book) (step : h.Step i entries h') :
      Course s programs h' (book ++ entries)

end SharedStore

/-! ## Places -/

namespace Wish

/-- Whatever is wanted of an event, it stays the event with this identifier. -/
theorem id_serve (e : Event) (wish : Wish) : (wish.serve e).2.id = e.id := by
  cases wish with
  | view => rfl
  | reserve seats =>
    unfold serve
    dsimp only
    split
    · rfl
    · rename_i n e' taken
      exact Event.id_of_reserve taken

end Wish

namespace Store

theorem place?_eq_none_iff {s : Store} {id : UInt32} : s.place? id = none ↔ s.find? id = none := by
  unfold place? find?
  rw [List.findIdx?_eq_none_iff, List.find?_eq_none]
  simp only [Bool.not_eq_true]

theorem of_place? {s : Store} {id : UInt32} {place : Nat} (h : s.place? id = some place) :
    ∃ e, s.events[place]? = some e ∧ e.id = id := by
  obtain ⟨inside, same, -⟩ := List.findIdx?_eq_some_iff_getElem.1 h
  exact ⟨s.events[place], List.getElem?_eq_getElem inside, by simpa using same⟩

/-- Where identifiers do not repeat, an event is its only namesake. -/
theorem replace_eq_put {s : Store} (hs : s.list.Nodup) {place : Nat} {e e' : Event}
    (there : s.events[place]? = some e) (same : e'.id = e.id) : s.replace e' = s.put place e' := by
  have events : (s.replace e').events = (s.put place e').events := by
    apply List.ext_getElem?
    intro j
    show (s.events.map _)[j]? = (s.events.set place e')[j]?
    rw [List.getElem?_map]
    by_cases here : place = j
    · subst here
      rw [List.getElem?_set_self (List.getElem?_eq_some_iff.1 there).1, there]
      simp [same]
    · rw [List.getElem?_set_ne here]
      cases other : s.events[j]? with
      | none => rfl
      | some old =>
        -- a namesake in another place would repeat the identifier in the list
        have differs : old.id ≠ e'.id := by
          intro namesake
          have inside : place < s.list.length := by
            rw [list, List.length_map]
            exact (List.getElem?_eq_some_iff.1 there).1
          refine here ((List.getElem?_inj inside hs).1 ?_)
          simp [list, there, other, namesake, same]
        simp [differs]
  exact congrArg (fun events => ({ s with events } : Store)) events

theorem put_self {s : Store} {place : Nat} {e : Event} (there : s.events[place]? = some e) :
    s.put place e = s := by
  obtain ⟨inside, rfl⟩ := List.getElem?_eq_some_iff.1 there
  unfold put
  rw [List.set_getElem_self]

/-- The events of `s` are in their places in `t`. -/
def Keeps (s t : Store) : Prop :=
  ∀ (place : Nat) (e : Event), s.events[place]? = some e →
    ∃ e', t.events[place]? = some e' ∧ e'.id = e.id

theorem Keeps.refl (s : Store) : s.Keeps s := fun _ e there => ⟨e, there, rfl⟩

theorem keeps_put {s : Store} {place : Nat} {e e' : Event} (there : s.events[place]? = some e)
    (same : e'.id = e.id) : s.Keeps (s.put place e') := by
  intro j old hold
  unfold put
  by_cases here : place = j
  · subst here
    obtain rfl := Option.some.inj (there.symm.trans hold)
    exact ⟨e', List.getElem?_set_self (List.getElem?_eq_some_iff.1 there).1, same⟩
  · exact ⟨old, (List.getElem?_set_ne here).trans hold, rfl⟩

variable [Platform]

theorem keeps_create (s : Store) (id : UInt32) (rows cols : UInt64) :
    s.Keeps (s.create id rows cols).2 := by
  unfold create
  split
  · exact .refl s
  · split
    · exact .refl s
    · split
      · exact .refl s
      · intro place e there
        refine ⟨e, ?_, rfl⟩
        rw [List.getElem?_append_left (List.getElem?_eq_some_iff.1 there).1, there]

/-! ## Looking up, then serving, is one call -/

theorem perform_miss {s : Store} {id : UInt32} (absent : s.place? id = none) (wish : Wish) :
    s.perform (Errand.about id wish).call = (wish.refuse (.eventNotFound id), s) := by
  have missing : s.lookup id = .error (.eventNotFound id) := by
    unfold lookup
    rw [place?_eq_none_iff.1 absent]
  cases wish with
  | reserve seats =>
    show (Answer.reserved (s.reserve id seats).1, (s.reserve id seats).2) = _
    unfold reserve
    rw [missing]
    rfl
  | view =>
    show (Answer.viewed (s.snapshot id), s) = _
    unfold snapshot
    rw [missing]
    rfl

theorem perform_serve {s : Store} (hs : s.list.Nodup) {place : Nat} {e : Event}
    (there : s.events[place]? = some e) (wish : Wish) :
    s.perform (Errand.about e.id wish).call =
      ((wish.serve e).1, s.put place (wish.serve e).2) := by
  have found : s.lookup e.id = .ok e :=
    lookup_eq_ok_iff.2 (find?_of_mem hs (List.mem_of_getElem? there))
  cases wish with
  | reserve seats =>
    have kept := Wish.id_serve e (.reserve seats)
    unfold Wish.serve at kept ⊢
    show (Answer.reserved (s.reserve e.id seats).1, (s.reserve e.id seats).2) = _
    unfold reserve
    rw [found]
    dsimp only at kept ⊢
    cases taken : e.reserve seats with
    | error fault =>
      dsimp only
      rw [put_self there]
    | ok result =>
      rw [taken] at kept
      dsimp only
      rw [replace_eq_put hs there kept]
  | view =>
    show (Answer.viewed (s.snapshot e.id), s) = (_, s.put place e)
    unfold snapshot
    rw [found, put_self there]
    rfl

end Store

namespace SharedStore

variable {h h' : SharedStore} {i : Nat} {entries : List Entry}

/-! ## One step -/

/-- Whoever has found an event finds it where it was. -/
def Steady (h : SharedStore) : Prop :=
  ∀ worker ∈ h.workers, ∀ goal, worker.found = some goal →
    ∃ e, h.store.events[goal.place]? = some e ∧ e.id = goal.id

theorem Steady.there (hs : h.Steady) {rest : List Errand} {goal : Finding}
    (here : h.workers[i]? = some { errands := rest, found := some goal }) :
    ∃ e, h.store.events[goal.place]? = some e ∧ e.id = goal.id :=
  hs _ (List.mem_of_getElem? here) goal rfl

theorem Steady.leave (hs : h.Steady) {t : Store} (keeps : h.store.Keeps t) (rest : List Errand) :
    (h.leave i rest t).Steady := by
  intro worker hp goal hg
  rcases List.mem_or_eq_of_mem_set hp with hp | rfl
  · obtain ⟨e, there, same⟩ := hs worker hp goal hg
    obtain ⟨e', there', same'⟩ := keeps goal.place e there
    exact ⟨e', there', same'.trans same⟩
  · cases hg

section

variable [Platform]

theorem Steady.step (hs : h.Steady) (step : h.Step i entries h') : h'.Steady := by
  cases step with
  | create => exact hs.leave (Store.keeps_create _ _ _ _) _
  | list | miss | idle => exact hs.leave (.refl _) _
  | serve _ there => exact hs.leave (Store.keeps_put there (Wish.id_serve _ _)) _
  | find _ found =>
    intro worker hp goal hg
    rcases List.mem_or_eq_of_mem_set hp with hp | rfl
    · exact hs worker hp goal hg
    · cases hg
      exact Store.of_place? found

/-- A step that ends an errand does what the whole call would do at this moment; the other steps do
nothing to the store. -/
theorem Step.performAll (step : h.Step i entries h') (nodup : h.store.list.Nodup)
    (hs : h.Steady) :
    h.store.performAll (entries.map (·.errand.call)) = (entries.map (·.answer), h'.store) := by
  have one : ∀ {errand : Errand} {answer : Store.Answer} {t : Store},
      h.store.perform errand.call = (answer, t) →
      h.store.performAll [errand.call] = ([answer], t) := by
    intro errand answer t did
    show ([(h.store.perform errand.call).1], (h.store.perform errand.call).2) = _
    rw [did]
  cases step with
  | create | list | find => rfl
  | miss _ absent => exact one (Store.perform_miss absent _)
  | @idle id rest place here found =>
    obtain ⟨e, there, rfl⟩ := Store.of_place? found
    have did := Store.perform_serve nodup there (.reserve [])
    rw [show Wish.serve e (.reserve []) = (.reserved (.error .emptyReservation), e) from rfl,
      Store.put_self there] at did
    exact one did
  | @serve goal rest e here there =>
    -- others may have changed the event since it was found, but it is the one the call would look up
    obtain ⟨e', there', same⟩ := hs.there here
    obtain rfl := Option.some.inj (there.symm.trans there')
    refine one ?_
    rw [← same]
    exact Store.perform_serve nodup there goal.wish

omit [Platform] in
/-- What is entered for a worker and what is left then are what was left before. -/
theorem left_leave {worker : Worker} {errand : Errand} {rest : List Errand}
    (here : h.workers[i]? = some worker) (left : worker.left = errand :: rest)
    (answer : Store.Answer) (t : Store) {j : Nat} {p : Worker} (there : h.workers[j]? = some p) :
    ∃ p', (h.leave i rest t).workers[j]? = some p' ∧
      ([⟨i, errand, answer⟩].filter (·.worker == j)).map Entry.errand ++ p'.left = p.left := by
  unfold leave
  by_cases same : i = j
  · subst same
    obtain rfl := Option.some.inj (here.symm.trans there)
    refine ⟨_, List.getElem?_set_self (List.getElem?_eq_some_iff.1 there).1, ?_⟩
    rw [left]
    simp [Worker.left]
  · refine ⟨p, (List.getElem?_set_ne same).trans there, ?_⟩
    simp [same]

theorem Step.left (step : h.Step i entries h') {j : Nat} {p : Worker}
    (there : h.workers[j]? = some p) :
    ∃ p', h'.workers[j]? = some p' ∧
      (entries.filter (·.worker == j)).map Entry.errand ++ p'.left = p.left := by
  cases step with
  | create here | list here | miss here | idle here | serve here =>
    exact left_leave here rfl _ _ there
  | @find id wish rest place here found =>
    by_cases same : i = j
    · subst same
      obtain rfl := Option.some.inj (here.symm.trans there)
      exact ⟨_, List.getElem?_set_self (List.getElem?_eq_some_iff.1 there).1, rfl⟩
    · exact ⟨p, (List.getElem?_set_ne same).trans there, rfl⟩

/-- Whoever has something left to do can go on. -/
theorem Steady.exists_step (hs : h.Steady) {worker : Worker} (here : h.workers[i]? = some worker)
    (busy : worker.left ≠ []) : ∃ entries h', h.Step i entries h' := by
  obtain ⟨errands, found⟩ := worker
  cases found with
  | some goal =>
    obtain ⟨e, there, -⟩ := hs.there here
    exact ⟨_, _, .serve here there⟩
  | none =>
    cases errands with
    | nil => exact absurd rfl busy
    | cons errand rest =>
      cases errand with
      | create => exact ⟨_, _, .create here⟩
      | list => exact ⟨_, _, .list here⟩
      | about id wish =>
        cases found : h.store.place? id with
        | none => exact ⟨_, _, .miss here found⟩
        | some place => exact ⟨_, _, .find here found⟩

/-! ## The whole course -/

variable {s : Store} {programs : List (List Errand)} {book : List Entry}

/-- What a course comes to is what its calls come to, one after the other. -/
theorem Course.performAll (hs : s.Reachable) (course : Course s programs h book) :
    s.performAll (book.map (·.errand.call)) = (book.map (·.answer), h.store) ∧ h.Steady := by
  induction course with
  | start =>
    refine ⟨rfl, fun worker hp goal hg => ?_⟩
    obtain ⟨errands, -, rfl⟩ := List.mem_map.1 hp
    cases hg
  | @next h h' book entries i course step ih =>
    obtain ⟨did, steady⟩ := ih
    have reachable := Store.reachable_performAll hs (book.map (·.errand.call))
    rw [did] at reachable
    refine ⟨?_, steady.step step⟩
    rw [List.map_append, List.map_append, Store.performAll_append, did,
      step.performAll reachable.sound.nodup steady]

theorem Course.left (course : Course s programs h book) {errands : List Errand}
    (program : programs[i]? = some errands) :
    ∃ worker, h.workers[i]? = some worker ∧
      (book.filter (·.worker == i)).map (·.errand) ++ worker.left = errands := by
  induction course with
  | start => exact ⟨{ errands }, by rw [List.getElem?_map, program]; rfl, rfl⟩
  | next course step ih =>
    obtain ⟨worker, here, before⟩ := ih
    obtain ⟨worker', here', since⟩ := step.left here
    refine ⟨worker', here', ?_⟩
    rw [List.filter_append, List.map_append, List.append_assoc, since, before]

/-- A store that has served workers in turn, in the order of the book. -/
structure InTurn (s : Store) (programs : List (List Errand)) (h : SharedStore) (book : List Entry) :
    Prop where
  /-- All answers, and the store, are those of whole calls one after the other. -/
  served : s.performAll (book.map (·.errand.call)) = (book.map (·.answer), h.store)
  /-- What was entered for a worker, and then what is left, are that worker's errands in their order;
  while something is left, there is a next step. -/
  orderly : ∀ i errands, programs[i]? = some errands →
    ∃ worker, h.workers[i]? = some worker ∧
      (book.filter (·.worker == i)).map (·.errand) ++ worker.left = errands ∧
      (worker.left ≠ [] → ∃ entries h', h.Step i entries h')
  /-- Reservations of one event that were granted share no seat. -/
  apart : ∀ id, (Log.sales id (told book)).Pairwise fun a b => a.seats.Disjoint b.seats
  /-- An identifier that was there is not given to another event, nor is one given twice. -/
  once : h.store.list = s.list ++ (Log.openings (told book)).map (·.id) ∧ h.store.list.Nodup

/-- However the steps of workers come between each other, they are served as if each errand were done
at one go, at the moment of its last step. -/
theorem course_in_turn (hs : s.Reachable) (course : Course s programs h book) :
    InTurn s programs h book := by
  obtain ⟨served, steady⟩ := course.performAll hs
  obtain ⟨log, agrees⟩ := hs.agrees
  have after := Store.agrees_performAll hs.sound agrees (book.map (·.errand.call))
  have sound := (Store.reachable_performAll hs (book.map (·.errand.call))).sound
  rw [Store.logOf, served, List.zip_map'] at after
  rw [served] at sound
  refine ⟨served, fun i errands program => ?_, fun id => ?_, ?_, sound.nodup⟩
  · obtain ⟨worker, here, all⟩ := course.left program
    exact ⟨worker, here, all, steady.exists_step here⟩
  · -- what was sold before the course is in front of what is sold in it
    have apart := after.apart id
    rw [Log.sales_append] at apart
    exact (List.pairwise_append.1 apart).2.1
  · rw [after.list_eq, Log.openings_append, List.map_append, ← agrees.list_eq]
    rfl

end

attribute [local instance] Platform.x86_64 in
/-- Two workers want the same seat of an event that both have found; while they are about it a third
puts other events on sale. -/
theorem course_in_turn_overlapping :
    ∃ h book, book.map (fun entry : Entry => (entry.worker, entry.answer)) =
        [(0, .created (.ok ())), (2, .created (.ok ())), (1, .reserved (.ok 1)),
          (0, .reserved (.error (.seatTaken ⟨1, 2⟩))), (2, .created (.error (.eventExists 7)))] ∧
      InTurn (Store.empty 9 0)
        [[.create 7 1 2, .about 7 (.reserve [⟨1, 1⟩, ⟨1, 2⟩])], [.about 7 (.reserve [⟨1, 2⟩])],
          [.create 8 1 1, .create 7 3 3]] h book := by
  have opened : Course (Store.empty 9 0)
      [[.create 7 1 2, .about 7 (.reserve [⟨1, 1⟩, ⟨1, 2⟩])], [.about 7 (.reserve [⟨1, 2⟩])],
        [.create 8 1 1, .create 7 3 3]] _ _ :=
    Course.start.next (Step.create (i := 0) rfl)
  have found := (opened.next (Step.find (i := 0) rfl rfl)).next (Step.find (i := 1) rfl rfl)
  have other := found.next (Step.create (i := 2) rfl)
  have served := (other.next (Step.serve (i := 1) rfl rfl)).next (Step.serve (i := 0) rfl rfl)
  exact ⟨_, _, rfl, course_in_turn (.empty 9 0) (served.next (Step.create (i := 2) rfl))⟩

end SharedStore

end BoxOffice
