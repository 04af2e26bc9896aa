import BoxOffice.Proofs.Stream.Breaking
/-!
# Pieces that do not show

Two streams may bring the same bytes in pieces of their own and be interrupted where they like
(`Source.SameBytes`).  A reading is `Seamless` when such streams are the same to it: it answers the
same, and leaves the same bytes.  Readings that are put together of seamless ones are seamless
(`Seamless.bind`).

Main facts: `seamless_byte?`, `seamless_exactly` and `seamless_skip`.
-/

namespace BoxOffice

namespace Source

/-- Nothing comes any more, and no read fails. -/
def isOver (s : Source) : Bool := s.all fun a => match a with
  | .data bytes => bytes.isEmpty
  | .closed | .interrupted => true
  | .failed _ => false

/-- No read fails, and none finds the stream closed while there are bytes to come. -/
def isWhole : Source → Bool
  | [] => true
  | .data _ :: s | .interrupted :: s => isWhole s
  | .closed :: s => isOver s
  | .failed _ :: _ => false

/-- The streams bring the same bytes, and nothing keeps either from bringing all of them. -/
structure SameBytes (s t : Source) : Prop where
  whole : s.isWhole = true
  whole' : t.isWhole = true
  bytes : s.bytes = t.bytes

variable {s t : Source}

/-! ## Streams that are over -/

theorem isOver_cons {a : Arrival} (h : isOver (a :: s) = true) :
    a.bytes = [] ∧ isOver s = true ∧ ∀ why, a ≠ .failed why := by
  unfold isOver at h
  rw [List.all_cons, Bool.and_eq_true] at h
  refine ⟨?_, h.2, ?_⟩
  · cases a with
    | data bytes => exact List.isEmpty_iff.1 h.1
    | closed | interrupted | failed => rfl
  · rintro why rfl
    cases h.1

theorem bytes_of_isOver (h : s.isOver = true) : s.bytes = [] := by
  induction s with
  | nil => rfl
  | cons a s ih =>
    obtain ⟨none_here, ended, -⟩ := isOver_cons h
    rw [bytes_cons, none_here, ih ended]
    rfl

theorem isWhole_of_isOver (h : s.isOver = true) : s.isWhole = true := by
  induction s with
  | nil => rfl
  | cons a s ih =>
    obtain ⟨-, ended, good⟩ := isOver_cons h
    cases a with
    | data | interrupted => exact ih ended
    | closed => exact ended
    | failed why => exact absurd rfl (good why)

theorem byte?_of_isOver (h : s.isOver = true) :
    ∃ left, byte? s = (.ok none, left) ∧ left.isOver = true := by
  induction s with
  | nil => exact ⟨[], rfl, rfl⟩
  | cons a s ih =>
    obtain ⟨none_here, ended, good⟩ := isOver_cons h
    cases a with
    | data bytes =>
      obtain rfl : bytes = [] := none_here
      exact ih ended
    | interrupted => exact ih ended
    | closed => exact ⟨s, rfl, ended⟩
    | failed why => exact absurd rfl (good why)

/-! ## Whole streams -/

/-- A whole stream gives its bytes and is over then. -/
theorem gives_of_isWhole (h : s.isWhole = true) :
    ∃ rest, Gives false s s.bytes rest ∧ rest.isOver = true := by
  induction s with
  | nil => exact ⟨[], gives_nil false [], rfl⟩
  | cons a s ih =>
    cases a with
    | data bytes =>
      obtain ⟨rest, gives, ended⟩ := ih h
      exact ⟨rest, gives.data bytes, ended⟩
    | interrupted =>
      obtain ⟨rest, gives, ended⟩ := ih h
      exact ⟨rest, gives.interrupted, ended⟩
    | closed =>
      refine ⟨.closed :: s, ?_, h⟩
      rw [bytes_cons, bytes_of_isOver h]
      exact gives_nil false _
    | failed => cases h

theorem Gives.isWhole {bs : List UInt8} {rest : Source} (h : Gives false s bs rest)
    (ended : rest.isOver = true) : s.isWhole = true := by
  obtain ⟨front, calm, -, rfl⟩ := h
  induction front with
  | nil => exact isWhole_of_isOver ended
  | cons a front ih =>
    obtain ⟨ha, calm'⟩ := List.forall_mem_cons.1 calm
    cases a with
    | data | interrupted => exact ih calm'
    | closed | failed => cases ha

theorem Gives.bytes_eq_of_isOver {bs : List UInt8} {rest : Source} (h : Gives false s bs rest)
    (ended : rest.isOver = true) : s.bytes = bs := by
  rw [h.bytes_eq, bytes_of_isOver ended, List.append_nil]

/-- What is received of a whole stream is known from its bytes alone. -/
theorem receive_of_isWhole (h : s.isWhole = true) (n : Nat) :
    ∃ t, receive n s = ⟨s.bytes.take n, if n ≤ s.bytes.length then none else some .closed, t⟩ ∧
      t.isWhole = true ∧ t.bytes = s.bytes.drop n := by
  obtain ⟨rest, gives, ended⟩ := gives_of_isWhole h
  by_cases enough : n ≤ s.bytes.length
  · rw [← List.take_append_drop n s.bytes] at gives
    obtain ⟨t, received, left⟩ := receive_of_gives gives
    rw [List.length_take, Nat.min_eq_left enough] at received
    refine ⟨t, ?_, left.isWhole ended, left.bytes_eq_of_isOver ended⟩
    rw [if_pos enough, received]
  · obtain ⟨t, closed, ended'⟩ := byte?_of_isOver ended
    have short : s.bytes.length < n := Nat.not_le.1 enough
    refine ⟨t, ?_, isWhole_of_isOver ended', ?_⟩
    · rw [if_neg enough, List.take_of_length_le (Nat.le_of_lt short)]
      exact receive_of_gives_closed gives closed short
    · rw [bytes_of_isOver ended', List.drop_of_length_le (Nat.le_of_lt short)]

/-- The next byte of a whole stream is the first of its bytes. -/
theorem byte?_of_isWhole (h : s.isWhole = true) :
    ∃ t, byte? s = (.ok s.bytes.head?, t) ∧ t.isWhole = true ∧ t.bytes = s.bytes.tail := by
  obtain ⟨rest, gives, ended⟩ := gives_of_isWhole h
  cases bytes : s.bytes with
  | nil =>
    rw [bytes] at gives
    obtain ⟨t, closed, ended'⟩ := byte?_of_isOver ended
    refine ⟨t, ?_, isWhole_of_isOver ended', bytes_of_isOver ended'⟩
    rw [byte?_of_gives_nil gives, closed]
    rfl
  | cons b bs =>
    rw [bytes] at gives
    obtain ⟨t, first, left⟩ := byte?_of_gives gives
    exact ⟨t, first, left.isWhole ended, left.bytes_eq_of_isOver ended⟩

/-! ## Readings -/

/-- Streams with the same bytes are the same to the reading. -/
def Seamless {α : Type} (r : Attempt Source α) : Prop :=
  ∀ s t, SameBytes s t → (r.run s).1 = (r.run t).1 ∧ SameBytes (r.run s).2 (r.run t).2

section

variable {α β : Type}

theorem Seamless.pure (a : α) : Seamless (Pure.pure a) := fun _ _ h => ⟨rfl, h⟩

theorem Seamless.fail (fault : Fault) : Seamless (Attempt.fail fault : Attempt _ α) :=
  fun _ _ h => ⟨rfl, h⟩

theorem Seamless.bind {r : Attempt Source α} {next : α → Attempt Source β} (hr : Seamless r)
    (hn : ∀ a, Seamless (next a)) : Seamless (r >>= next) := by
  intro s t h
  obtain ⟨answers, left⟩ := hr s t h
  rw [Attempt.run_bind, Attempt.run_bind]
  rcases hs : r.run s with ⟨answer, u⟩
  rcases ht : r.run t with ⟨answer', v⟩
  rw [hs, ht] at answers left
  obtain rfl : answer = answer' := answers
  cases answer with
  | error fault => exact ⟨rfl, left⟩
  | ok a => exact hn a u v left

/-- What is left of the streams when the reading has answered. -/
theorem Seamless.exists_rest {r : Attempt Source α} (hr : Seamless r) (h : SameBytes s t)
    {answer : Except Fault α} {u : Source} (run : r s = (answer, u)) :
    ∃ v, r t = (answer, v) ∧ SameBytes u v := by
  obtain ⟨answers, left⟩ := hr s t h
  rw [show r.run s = (answer, u) from run] at answers left
  exact ⟨(r.run t).2, Prod.ext answers.symm rfl, left⟩

end

theorem seamless_byte? : Seamless byte? := by
  intro s t h
  obtain ⟨u, first, whole, left⟩ := byte?_of_isWhole h.whole
  obtain ⟨v, first', whole', left'⟩ := byte?_of_isWhole h.whole'
  unfold Attempt.run
  rw [first, first', h.bytes]
  exact ⟨rfl, whole, whole', by rw [left, left', h.bytes]⟩

theorem seamless_exactly (n : Nat) : Seamless (exactly n) := by
  intro s t h
  obtain ⟨u, received, whole, left⟩ := receive_of_isWhole h.whole n
  obtain ⟨v, received', whole', left'⟩ := receive_of_isWhole h.whole' n
  have same : SameBytes u v := ⟨whole, whole', by rw [left, left', h.bytes]⟩
  unfold Attempt.run exactly
  rw [received, received', h.bytes]
  dsimp only
  split
  · exact ⟨rfl, same⟩
  · exact ⟨rfl, same⟩

/-- Bytes are thrown away in pieces, which need not be those in which they come. -/
theorem seamless_skip (count : Nat) : Seamless (skip count) := by
  have pieces : ∀ k, Seamless (skipPieces k) := by
    intro k
    induction k with
    | zero => exact .pure ()
    | succ k ih => exact (seamless_exactly _).bind fun _ => ih
  exact (pieces _).bind fun _ => (seamless_exactly _).bind fun _ => .pure _

end Source

end BoxOffice
