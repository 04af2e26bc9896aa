import BoxOffice.Dispatch.Crowd
/-!
# The book of a queue

Callers take their turns at a queue in any order, wait, are woken and go on.  `Crowd.Course` keeps a
book of it: the calls that are over, in the order in which their last turns were.  All that such a turn
can do is listed once (`Queue.Effect`), and from this the book balances (`Queue.Balances`):

* what was put in is what was taken out and then the buffer, in the same order;
* from the first close on, the items that it gave back stand in the place of the buffer, which stays
  empty, and every call is answered at once and changes nothing.

Main statement: `Crowd.course_balances`.
-/

namespace BoxOffice

namespace Queue

variable {α : Type}

/-! ## Turns that end a call -/

/-- What a call and its queue come to when the call's last turn is over. -/
inductive Effect (q : Queue α) : Call α → Except Fault (Answer α) → Queue α → Prop
  | enqueued (item : α) (going : q.closed = false) (room : q.buffer.length ≠ q.capacity) :
      Effect q (.enqueue item) (.ok .enqueued) { q with buffer := q.buffer ++ [item] }
  | dequeued (item : α) (others : List α) (going : q.closed = false)
      (stock : q.buffer = item :: others) :
      Effect q .dequeue (.ok (.dequeued item)) { q with buffer := others }
  | refused (call : Call α) (shut : q.closed = true) (kind : call ≠ .close) :
      Effect q call (.error .queueClosed) q
  | closed : Effect q .close (.ok (.closed q.buffer)) { q with buffer := [], closed := true }

theorem effect_of_turn {q q' : Queue α} {call : Call α} {result : Except Fault (Answer α)}
    {notice : Notice} (h : q.turn call = .ends result q' notice) : Effect q call result q' := by
  obtain ⟨capacity, buffer, closed⟩ := q
  cases closed with
  | true =>
    cases call with
    | enqueue | dequeue =>
      cases h
      exact .refused _ rfl nofun
    | close =>
      cases h
      exact .closed
  | false =>
    cases call with
    | enqueue item =>
      by_cases full : buffer.length = capacity
      · simp [turn, isFull, full] at h
      · simp only [turn, isFull, beq_iff_eq, full, Bool.not_false, Bool.true_and, if_false,
          Bool.false_eq_true] at h
        cases h
        exact .enqueued item rfl full
    | dequeue =>
      cases buffer with
      | nil => cases h
      | cons item others =>
        cases h
        exact .dequeued item others rfl rfl
    | close =>
      cases h
      exact .closed

/-- What a call gets from a queue that has been closed. -/
def Call.late : Call α → Except Fault (Answer α)
  | .close => .ok (.closed [])
  | .enqueue _ | .dequeue => .error .queueClosed

/-- Nobody waits at a queue that is closed and empty, and nothing becomes of it. -/
theorem turn_of_closed {q : Queue α} (shut : q.closed = true) (empty : q.buffer = [])
    (call : Call α) : ∃ notice, q.turn call = .ends call.late q notice := by
  obtain ⟨capacity, buffer, closed⟩ := q
  obtain rfl : closed = true := shut
  obtain rfl : buffer = [] := empty
  cases call <;> exact ⟨_, rfl⟩

/-! ## Books -/

/-- A call that is over, and who made it. -/
structure Receipt (α : Type) where
  caller : Nat
  call : Call α
  result : Except Fault (Answer α)

/-- The items that were put in. -/
def enqueued (book : List (Receipt α)) : List α :=
  book.filterMap fun e => match e.call, e.result with
    | .enqueue item, .ok .enqueued => some item
    | _, _ => none

/-- The items that were taken out. -/
def dequeued (book : List (Receipt α)) : List α :=
  book.filterMap fun e => match e.call, e.result with
    | .dequeue, .ok (.dequeued item) => some item
    | _, _ => none

theorem enqueued_append (book more : List (Receipt α)) :
    enqueued (book ++ more) = enqueued book ++ enqueued more :=
  List.filterMap_append

theorem dequeued_append (book more : List (Receipt α)) :
    dequeued (book ++ more) = dequeued book ++ dequeued more :=
  List.filterMap_append

/-- The first close gave back `dropped`, and who came after it came too late. -/
def ClosedWith (book : List (Receipt α)) (dropped : List α) : Prop :=
  ∃ before i after, book = before ++ ⟨i, .close, .ok (.closed dropped)⟩ :: after ∧
    (∀ e ∈ before, e.call ≠ .close) ∧ ∀ e ∈ after, e.result = e.call.late

/-- What a call can be answered while the queue is open. -/
def Call.Admits : Call α → Except Fault (Answer α) → Prop
  | .enqueue _, result => result = .ok .enqueued ∨ result = .error .queueClosed
  | .dequeue, result => (∃ item, result = .ok (.dequeued item)) ∨ result = .error .queueClosed
  | .close, result => ∃ dropped, result = .ok (.closed dropped)

/-- The book accounts for every item of the queue, and the queue has kept its bound. -/
structure Balances (q : Queue α) (capacity : Nat) (book : List (Receipt α)) : Prop where
  kept : q.capacity = capacity
  bounded : q.buffer.length ≤ capacity
  admitted : ∀ e ∈ book, e.call.Admits e.result
  /-- Before the first close: what was put in was taken out or is still there, in this order. -/
  going : q.closed = false →
    (∀ e ∈ book, e.call ≠ .close) ∧ enqueued book = dequeued book ++ q.buffer
  /-- From then on: what was put in was taken out or given back, and nothing more happens. -/
  shut : q.closed = true →
    q.buffer = [] ∧
    (∃ dropped, ClosedWith book dropped ∧ enqueued book = dequeued book ++ dropped) ∧
    ∀ call, ∃ notice, q.turn call = .ends call.late q notice

theorem balances_new (capacity : Nat) : ({ capacity } : Queue α).Balances capacity [] where
  kept := rfl
  bounded := Nat.zero_le _
  admitted := fun _ he => absurd he List.not_mem_nil
  going := fun _ => ⟨fun _ he => absurd he List.not_mem_nil, rfl⟩
  shut := fun h => Bool.noConfusion h

variable {q q' : Queue α} {capacity : Nat} {book : List (Receipt α)}

theorem Effect.admits {call : Call α} {result : Except Fault (Answer α)}
    (h : Effect q call result q') : call.Admits result := by
  cases h with
  | enqueued => exact .inl rfl
  | dequeued item => exact .inl ⟨item, rfl⟩
  | closed => exact ⟨_, rfl⟩
  | refused _ _ kind =>
    cases call with
    | enqueue | dequeue => exact .inr rfl
    | close => exact absurd rfl kind

/-- A call that came too late is one more of these. -/
theorem ClosedWith.late {dropped : List α} (h : ClosedWith book dropped) (i : Nat) (call : Call α) :
    ClosedWith (book ++ [⟨i, call, call.late⟩]) dropped := by
  obtain ⟨before, j, after, rfl, first, others⟩ := h
  refine ⟨before, j, after ++ [⟨i, call, call.late⟩], ?_, first, ?_⟩
  · rw [List.append_assoc]
    rfl
  · exact List.forall_mem_append.2 ⟨others, List.forall_mem_singleton.2 rfl⟩

theorem Balances.admits (h : q.Balances capacity book) {call : Call α}
    {result : Except Fault (Answer α)} (he : Effect q call result q') (i : Nat) :
    ∀ receipt ∈ book ++ [⟨i, call, result⟩], receipt.call.Admits receipt.result :=
  List.forall_mem_append.2 ⟨h.admitted, List.forall_mem_singleton.2 he.admits⟩

/-- An item that is put in comes behind the others. -/
theorem Balances.enqueue (h : q.Balances capacity book) (item : α) (going : q.closed = false)
    (room : q.buffer.length ≠ q.capacity) (i : Nat) :
    ({ q with buffer := q.buffer ++ [item] } : Queue α).Balances capacity
      (book ++ [⟨i, .enqueue item, .ok .enqueued⟩]) := by
  obtain ⟨no_close, balance⟩ := h.going going
  refine ⟨h.kept, ?_, h.admits (.enqueued item going room) i, fun _ => ⟨?_, ?_⟩, fun shut => ?_⟩
  · have bounded := h.bounded
    rw [h.kept] at room
    show (q.buffer ++ [item]).length ≤ capacity
    rw [List.length_append, List.length_singleton]
    omega
  · exact List.forall_mem_append.2 ⟨no_close, List.forall_mem_singleton.2 nofun⟩
  · rw [enqueued_append, dequeued_append, balance]
    show _ ++ [item] = _ ++ [] ++ (q.buffer ++ [item])
    rw [List.append_nil, List.append_assoc]
  · exact Bool.noConfusion (going.symm.trans shut)

/-- The item that is taken out was the first. -/
theorem Balances.dequeue (h : q.Balances capacity book) (item : α) (others : List α)
    (going : q.closed = false) (stock : q.buffer = item :: others) (i : Nat) :
    ({ q with buffer := others } : Queue α).Balances capacity
      (book ++ [⟨i, .dequeue, .ok (.dequeued item)⟩]) := by
  obtain ⟨no_close, balance⟩ := h.going going
  refine ⟨h.kept, ?_, h.admits (.dequeued item others going stock) i, fun _ => ⟨?_, ?_⟩,
    fun shut => ?_⟩
  · have bounded := h.bounded
    rw [stock, List.length_cons] at bounded
    exact Nat.le_of_succ_le bounded
  · exact List.forall_mem_append.2 ⟨no_close, List.forall_mem_singleton.2 nofun⟩
  · rw [enqueued_append, dequeued_append, balance, stock]
    show _ ++ [] = _ ++ [item] ++ others
    rw [List.append_nil, List.append_assoc]
    rfl
  · exact Bool.noConfusion (going.symm.trans shut)

/-- Who is refused came too late, and moves nothing. -/
theorem Balances.refuse (h : q.Balances capacity book) (call : Call α) (shut : q.closed = true)
    (kind : call ≠ .close) (i : Nat) :
    q.Balances capacity (book ++ [⟨i, call, .error .queueClosed⟩]) := by
  have late : call.late = .error .queueClosed := by
    cases call with
    | enqueue | dequeue => rfl
    | close => exact absurd rfl kind
  obtain ⟨empty, ⟨dropped, closed, balance⟩, still⟩ := h.shut shut
  refine ⟨h.kept, h.bounded, h.admits (.refused call shut kind) i, fun going => ?_, fun _ =>
    ⟨empty, ⟨dropped, ?_, ?_⟩, still⟩⟩
  · exact Bool.noConfusion (going.symm.trans shut)
  · rw [← late]
    exact closed.late i call
  · rw [enqueued_append, dequeued_append, balance]
    cases call <;> simp [enqueued, dequeued]

/-- The first close gives back what is there, and the others nothing. -/
theorem Balances.close (h : q.Balances capacity book) (i : Nat) :
    ({ q with buffer := [], closed := true } : Queue α).Balances capacity
      (book ++ [⟨i, .close, .ok (.closed q.buffer)⟩]) := by
  refine ⟨h.kept, Nat.zero_le _, h.admits .closed i, fun going => Bool.noConfusion going, fun _ =>
    ⟨rfl, ?_, turn_of_closed rfl rfl⟩⟩
  rw [enqueued_append, dequeued_append]
  show ∃ dropped, _ ∧ _ ++ [] = _ ++ [] ++ dropped
  rw [List.append_nil, List.append_nil]
  cases state : q.closed with
  | false =>
    obtain ⟨no_close, balance⟩ := h.going state
    exact ⟨q.buffer, ⟨book, i, [], rfl, no_close, List.forall_mem_nil _⟩, balance⟩
  | true =>
    -- the buffer was emptied by the close before
    obtain ⟨empty, ⟨dropped, closed, balance⟩, -⟩ := h.shut state
    refine ⟨dropped, ?_, balance⟩
    rw [empty]
    exact closed.late i .close

/-- Every turn that ends a call keeps the book in balance, now longer by that call. -/
theorem Balances.effect (h : q.Balances capacity book) {call : Call α}
    {result : Except Fault (Answer α)} (he : Effect q call result q') (i : Nat) :
    q'.Balances capacity (book ++ [⟨i, call, result⟩]) := by
  cases he with
  | enqueued item going room => exact h.enqueue item going room i
  | dequeued item others going stock => exact h.dequeue item others going stock i
  | refused _ shut kind => exact h.refuse call shut kind i
  | closed => exact h.close i

end Queue

open Queue

/-! ## Who is through -/

/-- The result of a caller whose last turn is over; it may still have a notice to give. -/
def Stage.outcome? {α : Type} : Stage α → Option (Except Fault (Answer α))
  | .notifying result _ | .returned result => some result
  | .entering | .waiting | .woken => none

namespace Crowd

variable {α : Type}

/-- The receipt of caller `i` in the book, once its call is over. -/
def receipt? (c : Crowd α) (i : Nat) : Option (Receipt α) :=
  c.callers[i]?.bind fun caller => caller.stage.outcome?.map fun result => ⟨i, caller.call, result⟩

/-- The calls that are over in `d` and were not in `c`. -/
def news (c d : Crowd α) : List (Receipt α) :=
  (List.range d.callers.length).filterMap fun i =>
    match c.receipt? i with
    | some _ => none
    | none => d.receipt? i

/-- What can come of an empty queue, and the calls that are over by then, in their order. -/
inductive Course (capacity : Nat) : Crowd α → List (Receipt α) → Prop
  | start : Course capacity { queue := { capacity } } []
  | next {c d : Crowd α} {book : List (Receipt α)} (h : Course capacity c book) (step : Step c d) :
      Course capacity d (book ++ c.news d)

theorem exists_course {capacity : Nat} {c : Crowd α} (h : Reachable capacity c) :
    ∃ book, Course capacity c book := by
  induction h with
  | start => exact ⟨[], .start⟩
  | next _ step ih =>
    obtain ⟨book, course⟩ := ih
    exact ⟨_, course.next step⟩

/-! ## One step -/

theorem receipt?_move_of_ne (c : Crowd α) {i j : Nat} (h : i ≠ j) (stage : Stage α) :
    (c.move i stage).receipt? j = c.receipt? j := by
  unfold receipt? move
  dsimp only
  rw [List.getElem?_modify_ne _ _ h]

theorem receipt?_move {c : Crowd α} {i : Nat} {caller : Caller α}
    (here : c.callers[i]? = some caller) (stage : Stage α) :
    (c.move i stage).receipt? i = stage.outcome?.map fun result => ⟨i, caller.call, result⟩ := by
  unfold receipt? move
  dsimp only
  rw [List.getElem?_modify_eq, here]
  rfl

/-- A caller that moves without coming to an end makes no receipt. -/
theorem receipt?_move_same {c : Crowd α} {i : Nat} {caller : Caller α}
    (here : c.callers[i]? = some caller) (stage : Stage α)
    (same : stage.outcome? = caller.stage.outcome?) (j : Nat) :
    (c.move i stage).receipt? j = c.receipt? j := by
  by_cases h : i = j
  · subst h
    rw [receipt?_move here, same]
    unfold receipt?
    rw [here]
    rfl
  · exact receipt?_move_of_ne c h stage

theorem outcome?_of_isWaiting {caller : Caller α} (h : caller.isWaiting = true) :
    caller.stage.outcome? = none := by
  obtain ⟨call, stage⟩ := caller
  cases stage with
  | waiting => rfl
  | entering | woken | notifying | returned => cases h

theorem isWaiting_of_heeds {caller : Caller α} {notice : Notice} (h : caller.heeds notice = true) :
    caller.isWaiting = true := by
  unfold Caller.heeds at h
  rw [Bool.and_eq_true] at h
  exact h.1

theorem receipt?_arrive (c : Crowd α) (call : Call α) (j : Nat) :
    (c.arrive call).receipt? j = c.receipt? j := by
  unfold receipt? arrive
  dsimp only
  rw [List.getElem?_append]
  split
  · rfl
  · rename_i beyond
    rw [List.getElem?_eq_none (Nat.not_lt.1 beyond), List.getElem?_singleton]
    split <;> rfl

theorem receipt?_wakeAll (c : Crowd α) (notice : Notice) (j : Nat) :
    (c.wakeAll notice).receipt? j = c.receipt? j := by
  unfold receipt? wakeAll
  dsimp only
  rw [List.getElem?_map]
  cases c.callers[j]? with
  | none => rfl
  | some caller =>
    dsimp only [Option.map_some, Option.bind_some]
    split
    · rename_i heeds
      rw [outcome?_of_isWaiting (isWaiting_of_heeds heeds)]
      rfl
    · rfl

/-- A turn that ends a call takes its caller through, whatever notice is to be given. -/
theorem takeTurn_of_ends {c : Crowd α} {call : Call α} {result : Except Fault (Answer α)}
    {queue : Queue α} {notice : Notice} (h : c.queue.turn call = .ends result queue notice) (i : Nat) :
    ∃ stage, c.takeTurn i call = ({ c with queue } : Crowd α).move i stage ∧
      stage.outcome? = some result := by
  unfold takeTurn
  rw [h]
  cases notice <;> exact ⟨_, rfl, rfl⟩

theorem takeTurn_of_waits {c : Crowd α} {call : Call α} (h : c.queue.turn call = .waits) (i : Nat) :
    c.takeTurn i call = c.move i .waiting := by
  unfold takeTurn
  rw [h]

theorem lt_length_of_here {c : Crowd α} {i : Nat} {caller : Caller α}
    (here : c.callers[i]? = some caller) : i < c.callers.length := by
  obtain ⟨inside, -⟩ := List.getElem?_eq_some_iff.1 here
  exact inside

section

variable {c : Crowd α} {i : Nat} {call : Call α} {result : Except Fault (Answer α)} {notice : Notice}
  (here : c.callers[i]? = some ⟨call, .notifying result notice⟩)
include here

/-- Who has a notice to give does not wait, and is not woken with the others. -/
theorem here_wakeAll (kind : Notice) :
    (c.wakeAll kind).callers[i]? = some ⟨call, .notifying result notice⟩ := by
  show (c.callers.map _)[i]? = _
  rw [List.getElem?_map, here]
  rfl

/-- Who has a notice to give does not wait, so it is someone else who is woken. -/
theorem here_move {j : Nat} {heard : Caller α} (there : c.callers[j]? = some heard)
    (waits : heard.isWaiting = true) (stage : Stage α) :
    (c.move j stage).callers[i]? = some ⟨call, .notifying result notice⟩ := by
  have other : j ≠ i := by
    rintro rfl
    rw [here] at there
    cases there
    cases waits
  show (c.callers.modify j _)[i]? = _
  rw [List.getElem?_modify_ne _ _ other, here]

end

/-- Either nothing happens to the queue and nobody comes through, or one caller has its last turn. -/
theorem step_cases {c d : Crowd α} (h : Step c d) :
    (d.queue = c.queue ∧ ∀ j, d.receipt? j = c.receipt? j) ∨
    ∃ i call result notice, c.queue.turn call = .ends result d.queue notice ∧
      i < d.callers.length ∧ c.receipt? i = none ∧ d.receipt? i = some ⟨i, call, result⟩ ∧
      ∀ j, i ≠ j → d.receipt? j = c.receipt? j := by
  cases h with
  | arrive call => exact .inl ⟨rfl, receipt?_arrive c call⟩
  | turn i caller here wants =>
    have coming : caller.stage.outcome? = none := by
      obtain ⟨call, stage⟩ := caller
      cases stage with
      | entering | woken => rfl
      | waiting | notifying | returned => cases wants
    cases turn : c.queue.turn caller.call with
    | waits =>
      rw [takeTurn_of_waits turn]
      exact .inl ⟨rfl, receipt?_move_same here .waiting coming.symm⟩
    | ends result queue notice =>
      obtain ⟨stage, moved, through⟩ := takeTurn_of_ends turn i
      rw [moved]
      have here' : ({ c with queue } : Crowd α).callers[i]? = some caller := here
      refine .inr ⟨i, caller.call, result, notice, turn, ?_, ?_, ?_, ?_⟩
      · show i < (c.callers.modify i _).length
        rw [List.length_modify]
        exact lt_length_of_here here
      · unfold receipt?
        rw [here, Option.bind_some, coming]
        rfl
      · rw [receipt?_move here', through]
        rfl
      · intro j other
        exact receipt?_move_of_ne _ other stage
  | tellAll i call result here =>
    have returned := receipt?_move_same (here_wakeAll here .everyone) (.returned result) rfl
    exact .inl ⟨rfl, fun j => (returned j).trans (receipt?_wakeAll c _ j)⟩
  | tellOne i j call result notice heard here one there heeds =>
    have waits := isWaiting_of_heeds heeds
    have woken := receipt?_move_same there .woken (outcome?_of_isWaiting waits).symm
    have returned := receipt?_move_same (here_move here there waits .woken) (.returned result) rfl
    exact .inl ⟨rfl, fun k => (returned k).trans (woken k)⟩
  | tellNone i call result notice here one none_heeds =>
    exact .inl ⟨rfl, receipt?_move_same here (.returned result) rfl⟩
  | spurious i caller here waits =>
    exact .inl ⟨rfl, receipt?_move_same here .woken (outcome?_of_isWaiting waits).symm⟩

theorem filterMap_range_eq_singleton {β : Type} {f : Nat → Option β} {n i : Nat} {b : β}
    (inside : i < n) (here : f i = some b) (others : ∀ j, i ≠ j → f j = none) :
    (List.range n).filterMap f = [b] := by
  induction n with
  | zero => exact absurd inside (Nat.not_lt_zero i)
  | succ n ih =>
    rw [List.range_succ, List.filterMap_append]
    by_cases last : i = n
    · subst last
      have before : (List.range i).filterMap f = [] := by
        rw [List.filterMap_eq_nil_iff]
        intro j hj
        have := List.mem_range.1 hj
        exact others j (by omega)
      rw [before]
      simp [here]
    · rw [ih (by omega)]
      simp [others n last]

theorem news_of_same {c d : Crowd α} (h : ∀ j, d.receipt? j = c.receipt? j) : c.news d = [] := by
  unfold news
  rw [List.filterMap_eq_nil_iff]
  intro j _
  rw [h]
  cases c.receipt? j <;> rfl

theorem news_of_ended {c d : Crowd α} {i : Nat} {receipt : Receipt α} (inside : i < d.callers.length)
    (before : c.receipt? i = none) (after : d.receipt? i = some receipt)
    (others : ∀ j, i ≠ j → d.receipt? j = c.receipt? j) : c.news d = [receipt] := by
  refine filterMap_range_eq_singleton inside ?_ ?_
  · rw [before, after]
  · intro j other
    rw [others j other]
    cases c.receipt? j <;> rfl

/-! ## The whole course -/

theorem Course.balances {capacity : Nat} {c : Crowd α} {book : List (Receipt α)}
    (h : Course capacity c book) : c.queue.Balances capacity book := by
  induction h with
  | start => exact balances_new capacity
  | @next c d book _ step ih =>
    rcases step_cases step with ⟨queue, same⟩ | ⟨i, call, result, notice, turn, inside, before, after,
      others⟩
    · rw [news_of_same same, List.append_nil, queue]
      exact ih
    · rw [news_of_ended inside before after others]
      exact ih.effect (effect_of_turn turn) i

/-- The book has one receipt for each caller that is through, and none for the others. -/
theorem Course.filter_caller {capacity : Nat} {c : Crowd α} {book : List (Receipt α)}
    (h : Course capacity c book) (i : Nat) :
    book.filter (·.caller == i) = (c.receipt? i).toList := by
  induction h with
  | start => rfl
  | @next c d book _ step ih =>
    rw [List.filter_append, ih]
    rcases step_cases step with ⟨-, same⟩ | ⟨j, call, result, notice, -, inside, before, after, others⟩
    · rw [news_of_same same, same]
      exact List.append_nil _
    · rw [news_of_ended inside before after others]
      by_cases here : j = i
      · subst here
        rw [before, after]
        simp
      · rw [others i here]
        simp [here]

/-- Whatever callers do at a queue, and in whatever order: the book of the calls that are over
balances at every moment, and holds what each caller that is through was answered. -/
theorem course_balances (capacity : Nat) :
    (∀ c : Crowd α, Reachable capacity c → ∃ book, Course capacity c book) ∧
    ∀ (c : Crowd α) book, Course capacity c book →
      c.queue.Balances capacity book ∧ ∀ i, book.filter (·.caller == i) = (c.receipt? i).toList :=
  ⟨fun _ => exists_course, fun _ _ course => ⟨course.balances, course.filter_caller⟩⟩

/-- Two items for a queue with room for one, which is closed before there is room for the other. -/
theorem course_balances_closed :
    ∃ (c : Crowd Nat) (book : List (Receipt Nat)), Course 1 c book ∧
      book.map (fun e => (e.caller, e.result)) =
        [(0, .ok .enqueued), (2, .ok (.closed [5])), (1, .error .queueClosed)] ∧
      c.queue.Balances 1 book ∧ ∀ i, book.filter (·.caller == i) = (c.receipt? i).toList := by
  have fresh : Course 1 ({ queue := { capacity := 1 } } : Crowd Nat) [] := .start
  have put := (fresh.next (.arrive _ (.enqueue 5))).next (.turn _ 0 ⟨.enqueue 5, .entering⟩ rfl rfl)
  have waits := (put.next (.arrive _ (.enqueue 6))).next (.turn _ 1 ⟨.enqueue 6, .entering⟩ rfl rfl)
  have closed := (waits.next (.arrive _ .close)).next (.turn _ 2 ⟨.close, .entering⟩ rfl rfl)
  have told := closed.next (.tellAll _ 2 .close (.ok (.closed [5])) rfl)
  have late := told.next (.turn _ 1 ⟨.enqueue 6, .woken⟩ rfl rfl)
  exact ⟨_, _, late, rfl, (course_balances 1).2 _ _ late⟩

end Crowd

end BoxOffice
