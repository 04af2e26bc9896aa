import BoxOffice.Proofs.Dispatch.Course
/-!
# Nobody waits in vain

A caller that has to wait is woken by a notice, and notices are given only after the lock has been let
go of; in between others come and take the place or the item that the notice was about.  What goes on
meanwhile is counted:

* `Queue.owed` says how many notices of a kind the queue owes to those who wait for such: one for each
  place that is left, one for each item, one to everyone once it is closed;
* `Caller.carries` says who has such a notice: a caller that is still to give it, or one that was woken
  and has not had its turn.

Whoever waits is attended to (`Crowd.Attended`): there are as many notices under way as are owed.  No
step changes that (`Crowd.Step.orderly`), so when nothing is under way nothing is owed.

A notice to everyone is one step of the crowd.  That it may come to some before the others is covered
as well, since these may wake by themselves (`Crowd.Reachable.wakeAll`).

Main statement: `Crowd.nobody_stranded`.
-/

namespace BoxOffice

namespace Queue

variable {α : Type}

/-- The call has to wait. -/
def Blocks (q : Queue α) : Call α → Prop
  | .enqueue _ => q.closed = false ∧ q.buffer.length = q.capacity
  | .dequeue => q.closed = false ∧ q.buffer = []
  | .close => False

/-- The notices that a call which has to wait is waiting for. -/
def Call.awaits : Call α → Notice
  | .enqueue _ => .oneProducer
  | .dequeue => .oneConsumer
  | .close => .nobody

/-- How many notices of this kind are due to those who wait for them. -/
def owed (q : Queue α) : Notice → Nat
  | .nobody => 0
  | .oneProducer => if q.closed then 0 else q.capacity - q.buffer.length
  | .oneConsumer => if q.closed then 0 else q.buffer.length
  | .everyone => if q.closed then 1 else 0

theorem blocks_of_turn {q : Queue α} {call : Call α} (h : q.turn call = .waits) :
    q.Blocks call := by
  obtain ⟨capacity, buffer, closed⟩ := q
  cases closed with
  | true => cases call <;> cases h
  | false =>
    cases call with
    | enqueue item =>
      by_cases full : buffer.length = capacity
      · exact ⟨rfl, full⟩
      · simp [turn, isFull, full] at h
    | dequeue =>
      cases buffer with
      | nil => exact ⟨rfl, rfl⟩
      | cons item others => cases h
    | close => cases h

/-- Whoever has to wait is owed nothing. -/
theorem Blocks.owed {q : Queue α} {call : Call α} (h : q.Blocks call) {n : Notice}
    (kind : n = call.awaits ∨ n = .everyone) : q.owed n = 0 := by
  cases call with
  | close => exact absurd h not_false
  | enqueue item =>
    obtain ⟨going, full⟩ := h
    rcases kind with rfl | rfl
    · simp [Queue.owed, Call.awaits, going, full]
    · simp [Queue.owed, going]
  | dequeue =>
    obtain ⟨going, empty⟩ := h
    rcases kind with rfl | rfl
    · simp [Queue.owed, Call.awaits, going, empty]
    · simp [Queue.owed, going]

/-- A turn that ends a call uses up what the call was waiting for, and what it owes to others it gives
notice of. -/
theorem owed_of_turn {q q' : Queue α} {call : Call α} {result : Except Fault (Answer α)}
    {notice : Notice} (h : q.turn call = .ends result q' notice) (n : Notice) :
    q'.owed n = 0 ∨
      q'.owed n + (call.awaits == n).toNat ≤ q.owed n + (notice == n).toNat := by
  cases effect_of_turn h with
  | enqueued item going room =>
    obtain rfl : Notice.oneConsumer = notice := by
      simp only [turn, isFull, going, room, beq_iff_eq, Bool.not_false, Bool.true_and, if_false,
        Bool.false_eq_true, Turn.ends.injEq] at h
      exact h.2.2
    have length : (q.buffer ++ [item]).length = q.buffer.length + 1 := List.length_append
    cases n with
    | nobody => exact .inl rfl
    | everyone => exact .inl (by simp [owed, going])
    | oneProducer =>
      show owed _ _ = 0 ∨ _ + 1 ≤ _ + 0
      simp only [owed, going, length, if_false, Bool.false_eq_true]
      omega
    | oneConsumer =>
      right
      show _ + 0 ≤ _ + 1
      simp [owed, going]
  | dequeued item others going stock =>
    obtain rfl : Notice.oneProducer = notice := by
      simp only [turn, going, stock, List.isEmpty_cons, Bool.not_false, Bool.and_false, if_false,
        Bool.false_eq_true, Turn.ends.injEq] at h
      exact h.2.2
    have length : q.buffer.length = others.length + 1 := by rw [stock, List.length_cons]
    cases n with
    | nobody => exact .inl rfl
    | everyone => exact .inl (by simp [owed, going])
    | oneProducer =>
      right
      show _ + 0 ≤ _ + 1
      simp only [owed, going, length, if_false, Bool.false_eq_true]
      omega
    | oneConsumer =>
      right
      show _ + 1 ≤ _ + 0
      simp [owed, going, length]
  | refused _ shut kind =>
    cases n with
    | nobody => exact .inl rfl
    | oneProducer | oneConsumer => exact .inl (by simp [owed, shut])
    | everyone =>
      have other : (call.awaits == Notice.everyone) = false := by cases call <;> rfl
      right
      rw [other]
      exact Nat.le_add_right _ _
  | closed =>
    obtain rfl : Notice.everyone = notice := by
      simp only [turn, Turn.ends.injEq] at h
      exact h.2.2
    cases n with
    | nobody => exact .inl rfl
    | oneProducer | oneConsumer => exact .inl rfl
    | everyone =>
      right
      show 1 + 0 ≤ q.owed .everyone + 1
      omega

/-- A dequeue that need not wait at an open queue finds an item. -/
theorem dequeue_of_turn {q q' : Queue α} {result : Except Fault (Answer α)} {notice : Notice}
    (going : q.closed = false) (h : q.turn .dequeue = .ends result q' notice) :
    ∃ item others, q.buffer = item :: others ∧ result = .ok (.dequeued item) ∧
      q' = { q with buffer := others } := by
  cases effect_of_turn h with
  | dequeued item others _ stock => exact ⟨item, others, stock, rfl, rfl⟩
  | refused _ shut => exact Bool.noConfusion (going.symm.trans shut)

end Queue

open Queue

/-! ## Notices under way -/

namespace Caller

variable {α : Type}

/-- The caller has such a notice: it is to give it, or was woken as by one. -/
def carries (c : Caller α) (n : Notice) : Bool := match c.stage with
  | .woken => c.call.awaits == n
  | .notifying _ notice => notice == n
  | _ => false

/-- The caller after such a notice to everyone. -/
def rouse (c : Caller α) (n : Notice) : Caller α :=
  if c.heeds n then { c with stage := .woken } else c

/-- The caller has a notice of some kind. -/
def hasNotice (c : Caller α) : Bool := match c.stage with
  | .woken | .notifying _ _ => true
  | _ => false

theorem not_carries {c : Caller α} (h : c.hasNotice = false) (n : Notice) : c.carries n = false := by
  obtain ⟨call, stage⟩ := c
  cases stage with
  | woken | notifying => cases h
  | entering | waiting | returned => rfl

theorem not_heeds {c : Caller α} (h : c.isWaiting = false) (n : Notice) : c.heeds n = false := by
  unfold heeds
  rw [h, Bool.false_and]

theorem heeds_of_isWaiting {c : Caller α} (h : c.isWaiting = true) {n : Notice}
    (kind : n = c.call.awaits ∨ n = .everyone) (able : c.call ≠ .close) : c.heeds n = true := by
  obtain ⟨call, stage⟩ := c
  unfold heeds
  rw [h]
  rcases kind with rfl | rfl
  · cases call with
    | enqueue | dequeue => rfl
    | close => exact absurd rfl able
  · rfl

theorem not_heeds_nobody (c : Caller α) : c.heeds .nobody = false := by
  obtain ⟨call, stage⟩ := c
  cases call <;> exact Bool.and_false _

/-- Who waits for a notice to one is after this one only. -/
theorem awaits_of_heeds {c : Caller α} {n : Notice} (h : c.heeds n = true)
    (one : n = .oneProducer ∨ n = .oneConsumer) : c.call.awaits = n := by
  obtain ⟨call, stage⟩ := c
  unfold heeds at h
  rw [Bool.and_eq_true] at h
  obtain ⟨-, kind⟩ := h
  rcases one with rfl | rfl <;> cases call <;> first | rfl | cases kind

theorem kind_of_heeds {c : Caller α} {n : Notice} (h : c.heeds n = true) :
    n = c.call.awaits ∨ n = .everyone := by
  cases n with
  | nobody => exact Bool.noConfusion (c.not_heeds_nobody.symm.trans h)
  | oneProducer => exact .inl (awaits_of_heeds h (.inl rfl)).symm
  | oneConsumer => exact .inl (awaits_of_heeds h (.inr rfl)).symm
  | everyone => exact .inr rfl

theorem not_carries_of_isWaiting {c : Caller α} (h : c.isWaiting = true) (n : Notice) :
    c.carries n = false := by
  obtain ⟨call, stage⟩ := c
  cases stage with
  | waiting => rfl
  | entering | woken | notifying | returned => cases h

/-- Who wants a turn carries at most what it was waiting for. -/
theorem carries_le_of_wantsTurn {c : Caller α} (h : c.wantsTurn = true) (n : Notice) :
    (c.carries n).toNat ≤ (c.call.awaits == n).toNat := by
  obtain ⟨call, stage⟩ := c
  cases stage with
  | entering => exact Nat.zero_le _
  | woken => exact Nat.le_refl _
  | waiting | notifying | returned => cases h

end Caller

namespace Crowd

variable {α : Type}

/-- Who waits for such notices is owed no more of them than are under way, and than are left after
`spare` of these. -/
def Attended (c : Crowd α) (n : Notice) (spare : Nat) : Prop :=
  (∃ caller ∈ c.callers, caller.heeds n = true) →
    c.queue.owed n + spare ≤ c.callers.countP (·.carries n)

theorem attended_of_owed {c : Crowd α} {n : Notice} (h : c.queue.owed n = 0) : c.Attended n 0 := by
  intro _
  rw [h]
  exact Nat.zero_le _

theorem attended_of_not_heeds {c : Crowd α} {n : Notice}
    (h : ∀ caller ∈ c.callers, caller.heeds n = false) (spare : Nat) : c.Attended n spare := by
  rintro ⟨caller, hc, heeds⟩
  exact Bool.noConfusion ((h caller hc).symm.trans heeds)

/-! ## One caller moves -/

theorem countP_modify {β : Type} (p : β → Bool) (f : β → β) {l : List β} {i : Nat} {b : β}
    (here : l[i]? = some b) :
    (l.modify i f).countP p + (p b).toNat = l.countP p + (p (f b)).toNat := by
  have toNat (b : β) : (if p b = true then 1 else 0) = (p b).toNat := by cases p b <;> rfl
  induction l generalizing i with
  | nil => cases here
  | cons head tail ih =>
    cases i with
    | zero =>
      cases here
      rw [List.modify_zero_cons, List.countP_cons, List.countP_cons, toNat, toNat]
      omega
    | succ i =>
      have := ih (List.getElem?_cons_succ ▸ here)
      rw [List.modify_succ_cons, List.countP_cons, List.countP_cons]
      omega

theorem mem_move {c : Crowd α} {i : Nat} {caller : Caller α} (here : c.callers[i]? = some caller)
    {stage : Stage α} {other : Caller α} (h : other ∈ (c.move i stage).callers) :
    other ∈ c.callers ∨ other = { caller with stage } := by
  obtain ⟨j, hj⟩ := List.mem_iff_getElem?.1 h
  change (c.callers.modify i _)[j]? = some other at hj
  by_cases same : i = j
  · subst same
    rw [List.getElem?_modify_eq, here] at hj
    cases hj
    exact .inr rfl
  · rw [List.getElem?_modify_ne _ _ same] at hj
    exact .inl (List.mem_of_getElem? hj)

variable {c : Crowd α} {i : Nat} {caller : Caller α}

/-- A caller that moves, and does not wait from then on for such notices, leaves those attended to who
do, if it leaves them as many as it takes. -/
theorem Attended.move {n : Notice} {spare spare' : Nat} (h : c.Attended n spare)
    (here : c.callers[i]? = some caller) {stage : Stage α} (queue : Queue α)
    (rests : ({ caller with stage } : Caller α).heeds n = false)
    (budget : queue.owed n + spare' + (caller.carries n).toNat ≤
      c.queue.owed n + spare + (({ caller with stage } : Caller α).carries n).toNat) :
    (({ c with queue } : Crowd α).move i stage).Attended n spare' := by
  rintro ⟨other, mem, heeds⟩
  have waiting : ∃ caller ∈ c.callers, caller.heeds n = true := by
    have here' : ({ c with queue } : Crowd α).callers[i]? = some caller := here
    rcases mem_move here' mem with old | rfl
    · exact ⟨other, old, heeds⟩
    · exact Bool.noConfusion (rests.symm.trans heeds)
  have enough := h waiting
  have count := countP_modify (·.carries n) (fun caller : Caller α => { caller with stage }) here
  show queue.owed n + spare' ≤ (c.callers.modify i _).countP _
  omega

/-! ## Steps -/

/-- Nobody waits to close. -/
def Able (c : Crowd α) : Prop :=
  ∀ caller ∈ c.callers, caller.isWaiting = true → caller.call ≠ .close

/-- All who wait are attended to, and are such as wait. -/
structure Orderly (c : Crowd α) : Prop where
  attended : ∀ n, c.Attended n 0
  able : c.Able

/-- A turn that ends a call puts its caller where it carries the notice that it is to give. -/
theorem takeTurn_carries {call : Call α} {result : Except Fault (Answer α)} {queue : Queue α}
    {notice : Notice} (h : c.queue.turn call = .ends result queue notice) (i : Nat) :
    ∃ stage, c.takeTurn i call = ({ c with queue } : Crowd α).move i stage ∧
      ({ call, stage } : Caller α).isWaiting = false ∧
      ∀ n ≠ .nobody, ({ call, stage } : Caller α).carries n = (notice == n) := by
  unfold takeTurn
  rw [h]
  cases notice with
  | nobody =>
    refine ⟨.returned result, rfl, rfl, fun n some => ?_⟩
    exact (beq_eq_false_iff_ne.2 some.symm).symm
  | oneProducer | oneConsumer | everyone => exact ⟨.notifying result _, rfl, rfl, fun _ _ => rfl⟩

theorem Able.move (h : c.Able) (here : c.callers[i]? = some caller) {stage : Stage α}
    (able : ({ caller with stage } : Caller α).isWaiting = true → caller.call ≠ .close) :
    (c.move i stage).Able := by
  intro other mem waits
  rcases mem_move here mem with old | rfl
  · exact h other old waits
  · exact able waits

theorem Orderly.arrive (h : c.Orderly) (call : Call α) : (c.arrive call).Orderly where
  attended n := by
    rintro ⟨other, mem, heeds⟩
    have old : other ∈ c.callers := by
      rcases List.mem_append.1 mem with old | new
      · exact old
      · obtain rfl := List.mem_singleton.1 new
        cases heeds
    have enough := h.attended n ⟨other, old, heeds⟩
    show c.queue.owed n + 0 ≤ (c.callers ++ [_]).countP _
    rw [List.countP_append]
    omega
  able other mem waits := by
    rcases List.mem_append.1 mem with old | new
    · exact h.able other old waits
    · obtain rfl := List.mem_singleton.1 new
      cases waits

theorem Orderly.takeTurn (h : c.Orderly) (here : c.callers[i]? = some caller)
    (wants : caller.wantsTurn = true) : (c.takeTurn i caller.call).Orderly := by
  cases turn : c.queue.turn caller.call with
  | waits =>
    have blocks := blocks_of_turn turn
    rw [takeTurn_of_waits turn]
    refine ⟨fun n => ?_, h.able.move here fun _ => ?_⟩
    · by_cases kind : n = caller.call.awaits ∨ n = .everyone
      · exact attended_of_owed (blocks.owed kind)
      · -- it waits for something else, and neither had such a notice before nor has one now
        have rests : ({ caller with stage := .waiting } : Caller α).heeds n = false := by
          rw [← Bool.not_eq_true]
          intro heeds
          have kind_of := Caller.kind_of_heeds heeds
          exact kind kind_of
        have other : (caller.call.awaits == n) = false := by
          rw [beq_eq_false_iff_ne]
          exact fun same => kind (.inl same.symm)
        have before := Caller.carries_le_of_wantsTurn wants n
        rw [other] at before
        exact (h.attended n).move here c.queue rests (Nat.add_le_add_left before _)
    · intro close
      rw [close] at blocks
      exact blocks
  | ends result queue notice =>
    obtain ⟨stage, moved, rests, carries⟩ := takeTurn_carries turn i
    rw [moved]
    have able : ({ c with queue } : Crowd α).Able := h.able
    refine ⟨fun n => ?_, able.move here fun waits => ?_⟩
    · by_cases nobody : n = .nobody
      · subst nobody
        exact attended_of_not_heeds (fun other _ => other.not_heeds_nobody) 0
      · rcases owed_of_turn turn n with paid | budget
        · exact attended_of_owed paid
        · have before := Caller.carries_le_of_wantsTurn wants n
          refine (h.attended n).move here queue (Caller.not_heeds rests n) ?_
          show _ ≤ _ + (Caller.carries { call := caller.call, stage } n).toNat
          rw [carries n nobody]
          omega
    · exact Bool.noConfusion (rests.symm.trans waits)

theorem not_isWaiting_wakeAll (c : Crowd α) :
    ∀ caller ∈ (c.wakeAll .everyone).callers, caller.isWaiting = false := by
  intro caller mem
  obtain ⟨before, -, rfl⟩ := List.mem_map.1 mem
  split
  · rfl
  · rename_i calm
    unfold Caller.heeds at calm
    rw [Bool.and_true, Bool.not_eq_true] at calm
    exact calm

/-- When all have been told, nobody waits. -/
theorem orderly_tellAll {call : Call α} {result : Except Fault (Answer α)}
    (here : c.callers[i]? = some ⟨call, .notifying result .everyone⟩) :
    ((c.wakeAll .everyone).move i (.returned result)).Orderly := by
  have calm : ∀ other ∈ ((c.wakeAll .everyone).move i (.returned result)).callers,
      other.isWaiting = false := by
    intro other mem
    rcases mem_move (here_wakeAll here .everyone) mem with old | rfl
    · exact c.not_isWaiting_wakeAll other old
    · rfl
  refine ⟨fun n => attended_of_not_heeds (fun other mem => Caller.not_heeds (calm other mem) n) 0, ?_⟩
  intro other mem waits
  exact Bool.noConfusion ((calm other mem).symm.trans waits)

/-- A notice that is heard goes from the one who gives it to the one who is woken. -/
theorem Orderly.tellOne (h : c.Orderly) {j : Nat} {call : Call α} {result : Except Fault (Answer α)}
    {notice : Notice} {heard : Caller α}
    (here : c.callers[i]? = some ⟨call, .notifying result notice⟩)
    (one : notice = .oneProducer ∨ notice = .oneConsumer) (there : c.callers[j]? = some heard)
    (heeds : heard.heeds notice = true) : ((c.move j .woken).move i (.returned result)).Orderly := by
  have waits := isWaiting_of_heeds heeds
  have here' := here_move here there waits .woken
  have able : (c.move j .woken).Able := h.able.move there nofun
  refine ⟨fun n => ?_, able.move here' nofun⟩
  have spared : (c.move j .woken).Attended n (notice == n).toNat := by
    refine (h.attended n).move there c.queue rfl ?_
    rw [Caller.not_carries_of_isWaiting waits]
    show _ ≤ _ + (heard.call.awaits == n).toNat
    rw [Caller.awaits_of_heeds heeds one]
    exact Nat.le_refl _
  exact spared.move here' c.queue rfl (Nat.le_refl _)

/-- A notice that nobody waits for is not owed. -/
theorem Orderly.tellNone (h : c.Orderly) {call : Call α} {result : Except Fault (Answer α)}
    {notice : Notice} (here : c.callers[i]? = some ⟨call, .notifying result notice⟩)
    (none_heeds : ∀ caller ∈ c.callers, caller.heeds notice = false) :
    (c.move i (.returned result)).Orderly := by
  refine ⟨fun n => ?_, h.able.move here nofun⟩
  by_cases same : notice = n
  · subst same
    refine attended_of_not_heeds (fun other mem => ?_) 0
    rcases mem_move here mem with old | rfl
    · exact none_heeds other old
    · rfl
  · refine (h.attended n).move here c.queue rfl ?_
    show _ + (notice == n).toNat ≤ _
    rw [beq_eq_false_iff_ne.2 same]
    exact Nat.le_refl _

theorem Orderly.spurious (h : c.Orderly) (here : c.callers[i]? = some caller)
    (waits : caller.isWaiting = true) : (c.move i .woken).Orderly := by
  refine ⟨fun n => (h.attended n).move here c.queue rfl ?_, h.able.move here nofun⟩
  rw [Caller.not_carries_of_isWaiting waits]
  exact Nat.le_add_right _ _

theorem Step.orderly {d : Crowd α} (step : Step c d) (h : c.Orderly) : d.Orderly := by
  cases step with
  | arrive call => exact h.arrive call
  | turn i caller here wants => exact h.takeTurn here wants
  | tellAll i call result here => exact orderly_tellAll here
  | tellOne i j call result notice heard here one there heeds =>
    exact h.tellOne here one there heeds
  | tellNone i call result notice here one none_heeds => exact h.tellNone here none_heeds
  | spurious i caller here waits => exact h.spurious here waits

variable {capacity : Nat}

theorem Reachable.orderly (h : Reachable capacity c) : c.Orderly := by
  induction h with
  | start =>
    refine ⟨fun n => attended_of_not_heeds ?_ 0, ?_⟩
    · exact List.forall_mem_nil _
    · exact List.forall_mem_nil _
  | next _ step ih => exact step.orderly ih

/-! ## Notices to everyone -/

/-- Of those who have not woken yet, all who heed a notice may wake by themselves, one after the
other. -/
theorem Reachable.rouse_others (notice : Notice) (others woken : List (Caller α)) {queue : Queue α}
    (h : Reachable capacity ⟨queue, woken ++ others⟩) :
    Reachable capacity ⟨queue, woken ++ others.map (·.rouse notice)⟩ := by
  induction others generalizing woken with
  | nil => exact h
  | cons caller others ih =>
    have next : Reachable capacity ⟨queue, woken ++ [caller.rouse notice] ++ others⟩ := by
      unfold Caller.rouse
      by_cases heeds : caller.heeds notice = true
      · have here : (woken ++ caller :: others)[woken.length]? = some caller := by simp
        have woke := h.next (.spurious _ woken.length caller here (isWaiting_of_heeds heeds))
        simpa [move, heeds, List.modify_eq_take_drop] using woke
      · simpa [heeds] using h
    have all := ih (woken ++ [caller.rouse notice]) next
    rwa [List.append_assoc] at all

/-- A notice to everyone that reaches some before others takes the crowd nowhere else. -/
theorem Reachable.wakeAll (h : Reachable capacity c) (notice : Notice) :
    Reachable capacity (c.wakeAll notice) :=
  Reachable.rouse_others notice c.callers [] h

/-! ## Nobody is stranded -/

/-- No notice is under way: nobody is to give one, and nobody was woken and is to have its turn.
Some may have come who have not had a turn. -/
def Quiet (c : Crowd α) : Prop := ∀ caller ∈ c.callers, caller.hasNotice = false

theorem Quiet.not_owed (quiet : c.Quiet) (h : c.Orderly) {n : Notice}
    (waiting : ∃ caller ∈ c.callers, caller.heeds n = true) : c.queue.owed n = 0 := by
  have enough := h.attended n waiting
  have none : c.callers.countP (·.carries n) = 0 := by
    rw [List.countP_eq_zero]
    intro caller mem carries
    have empty := Caller.not_carries (quiet caller mem) n
    exact Bool.noConfusion (empty.symm.trans carries)
  omega

theorem Reachable.bounded (h : Reachable capacity c) :
    c.queue.capacity = capacity ∧ c.queue.buffer.length ≤ c.queue.capacity := by
  obtain ⟨book, course⟩ := exists_course h
  have balances := course.balances
  refine ⟨balances.kept, ?_⟩
  rw [balances.kept]
  exact balances.bounded

/-- Nobody waits at a closed queue while all is quiet. -/
theorem Quiet.going (quiet : c.Quiet) (h : c.Orderly) (mem : caller ∈ c.callers)
    (waits : caller.isWaiting = true) : c.queue.closed = false := by
  have heeds := Caller.heeds_of_isWaiting waits (.inr rfl) (h.able caller mem waits)
  have owed := quiet.not_owed h ⟨caller, mem, heeds⟩
  cases shut : c.queue.closed with
  | false => rfl
  | true => simp [Queue.owed, shut] at owed

/-- Who waits while all is quiet has to. -/
theorem Quiet.blocks (quiet : c.Quiet) (h : Reachable capacity c) (mem : caller ∈ c.callers)
    (waits : caller.isWaiting = true) : c.queue.Blocks caller.call := by
  have able := h.orderly.able caller mem waits
  have heeds := Caller.heeds_of_isWaiting waits (.inl rfl) able
  have owed := quiet.not_owed h.orderly ⟨caller, mem, heeds⟩
  have going := quiet.going h.orderly mem waits
  obtain ⟨call, stage⟩ := caller
  cases call with
  | close => exact absurd rfl able
  | enqueue item =>
    have full : c.queue.capacity - c.queue.buffer.length = 0 := by
      simpa only [Queue.owed, Call.awaits, going, Bool.false_eq_true, if_false] using owed
    obtain ⟨-, bounded⟩ := h.bounded
    exact ⟨going, by omega⟩
  | dequeue =>
    have empty : c.queue.buffer.length = 0 := by
      simpa only [Queue.owed, Call.awaits, going, Bool.false_eq_true, if_false] using owed
    exact ⟨going, List.length_eq_zero_iff.1 empty⟩

/-- Nobody waits in vain at a queue with room for one or more, whatever callers do at it and in whatever
order.  While no notice is under way, only those wait who have to: to put an item into a queue that is
open and full, or to take one out of a queue that is open and empty.  So these do not wait at the same
time, and nobody waits at a closed queue.  Who takes an item out of an open queue and need not wait
finds one.  And all this holds as well after a notice to everyone has come to some before others. -/
theorem nobody_stranded (room : 0 < capacity) (h : Reachable capacity c) :
    (c.Quiet →
      (∀ caller ∈ c.callers, caller.isWaiting = true → c.queue.Blocks caller.call) ∧
      ¬((∃ producer ∈ c.callers, producer.heeds .oneProducer = true) ∧
        ∃ consumer ∈ c.callers, consumer.heeds .oneConsumer = true) ∧
      (c.queue.closed = true → ∀ caller ∈ c.callers, caller.isWaiting = false)) ∧
    (c.queue.closed = false → ∀ result queue notice,
      c.queue.turn .dequeue = .ends result queue notice →
      ∃ item others, c.queue.buffer = item :: others ∧ result = .ok (.dequeued item) ∧
        queue = { c.queue with buffer := others }) ∧
    ∀ notice, Reachable capacity (c.wakeAll notice) := by
  refine ⟨fun quiet => ⟨?_, ?_, ?_⟩, ?_, h.wakeAll⟩
  · exact fun caller mem waits => quiet.blocks h mem waits
  · rintro ⟨⟨producer, hp, heeds_p⟩, ⟨consumer, hc, heeds_c⟩⟩
    have full := quiet.not_owed h.orderly ⟨producer, hp, heeds_p⟩
    have empty := quiet.not_owed h.orderly ⟨consumer, hc, heeds_c⟩
    have going := quiet.going h.orderly hc (isWaiting_of_heeds heeds_c)
    simp only [Queue.owed, going, Bool.false_eq_true, if_false] at full empty
    obtain ⟨kept, -⟩ := h.bounded
    omega
  · intro shut caller mem
    rw [← Bool.not_eq_true]
    intro waits
    have going := quiet.going h.orderly mem waits
    exact Bool.noConfusion (going.symm.trans shut)
  · exact fun going result queue notice turn => dequeue_of_turn going turn

/-- The item that is taken out makes room for one who waits, but someone else comes first: the one who
waits is woken and waits again, and then all is quiet. -/
theorem nobody_stranded_barging :
    ∃ c : Crowd Nat, Reachable 1 c ∧ c.Quiet ∧
      c.results = [(0, .ok .enqueued), (2, .ok (.dequeued 5)), (3, .ok .enqueued)] ∧
      c.waiting = 1 ∧
      ∀ caller ∈ c.callers, caller.isWaiting = true → c.queue.Blocks caller.call := by
  have fresh : Reachable 1 ({ queue := { capacity := 1 } } : Crowd Nat) := .start
  have put := (fresh.next (.arrive _ (.enqueue 5))).next (.turn _ 0 ⟨.enqueue 5, .entering⟩ rfl rfl)
  have waits := (put.next (.arrive _ (.enqueue 6))).next (.turn _ 1 ⟨.enqueue 6, .entering⟩ rfl rfl)
  have taken := (waits.next (.arrive _ .dequeue)).next (.turn _ 2 ⟨.dequeue, .entering⟩ rfl rfl)
  have first := (taken.next (.arrive _ (.enqueue 7))).next (.turn _ 3 ⟨.enqueue 7, .entering⟩ rfl rfl)
  have woken := first.next
    (.tellOne _ 2 1 .dequeue (.ok (.dequeued 5)) .oneProducer _ rfl (.inl rfl) rfl rfl)
  have again := woken.next (.turn _ 1 ⟨.enqueue 6, .woken⟩ rfl rfl)
  have nobody {c : Crowd Nat} (h : c.callers.all (!·.heeds .oneConsumer) = true) :
      ∀ caller ∈ c.callers, caller.heeds .oneConsumer = false := by
    simpa using h
  have one := again.next
    (.tellNone _ 0 (.enqueue 5) (.ok .enqueued) .oneConsumer rfl (.inr rfl) (nobody rfl))
  have all := one.next
    (.tellNone _ 3 (.enqueue 7) (.ok .enqueued) .oneConsumer rfl (.inr rfl) (nobody rfl))
  have quiet {c : Crowd Nat} (h : c.callers.all (!·.hasNotice) = true) : c.Quiet := by
    simpa [Quiet] using h
  exact ⟨_, all, quiet rfl, rfl, rfl, ((nobody_stranded (by decide) all).1 (quiet rfl)).1⟩

end Crowd

end BoxOffice
