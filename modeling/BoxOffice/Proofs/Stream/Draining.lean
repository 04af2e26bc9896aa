import BoxOffice.Proofs.Stream.Delivery
import BoxOffice.Proofs.Stream.Spending
import BoxOffice.Wire.Frame
/-!
# Bytes thrown away

Bytes that nobody wants are thrown away in pieces, and bytes that are wanted are received in one block.
Neither way of asking shows in the stream: receiving `m + n` bytes is receiving `m` bytes and then `n`
more (`receive_add`), so a reading that is put together of others goes as far as a block of all their
bytes does (`Spans.bind`).

Main statement: `Source.skip_as_exactly`.
-/

namespace BoxOffice

namespace Received

/-- What has come, and after it what comes of asking for more, unless the stream has stopped. -/
def andThen (r : Received) (next : Source → Received) : Received :=
  match r.halt with
  | none => { next r.rest with bytes := r.bytes ++ (next r.rest).bytes }
  | some _ => r

/-- What has come, behind bytes that came before. -/
def behind (front : List UInt8) (r : Received) : Received := { r with bytes := front ++ r.bytes }

theorem behind_andThen (front : List UInt8) (r : Received) (next : Source → Received) :
    (r.behind front).andThen next = (r.andThen next).behind front := by
  obtain ⟨bytes, halt, rest⟩ := r
  cases halt with
  | none => simp only [andThen, behind, List.append_assoc]
  | some why => rfl

end Received

namespace Source

variable {m n : Nat} {s : Source} {bytes : List UInt8}

/-! ## Receiving in two steps -/

theorem receive_of_piece_le (pos : 0 < n) (enough : n ≤ bytes.length) (s : Source) :
    receive n (.data bytes :: s) = ⟨bytes.take n, none, .data (bytes.drop n) :: s⟩ := by
  have full : (bytes.take n).length = n := List.length_take_of_le enough
  have piece := receive_of_piece_ge (bytes.take n) (bytes.drop n) ?_ s
  · rwa [full, List.take_append_drop] at piece
  · exact List.ne_nil_of_length_pos (full.symm ▸ pos)

/-- Where only part of the first piece is wanted, the rest of it is there for the next to ask. -/
theorem receive_add_of_piece (pos : 0 < m) (enough : m ≤ bytes.length) (n : Nat) (s : Source) :
    receive (m + n) (.data bytes :: s) =
      (receive n (.data (bytes.drop m) :: s)).behind (bytes.take m) := by
  unfold Received.behind
  by_cases all : m + n ≤ bytes.length
  · rw [receive_of_piece_le (Nat.add_pos_left pos n) all]
    cases n with
    | zero => rw [receive, List.append_nil, Nat.add_zero]
    | succ n =>
      have enough' : n + 1 ≤ (bytes.drop m).length := by rw [List.length_drop]; omega
      rw [receive_of_piece_le (Nat.succ_pos n) enough', List.take_add, List.drop_drop]
  · have short : (bytes.drop m).length < n := by rw [List.length_drop]; omega
    have left : n - (bytes.length - m) = m + n - bytes.length := by omega
    rw [receive_of_piece_lt (Nat.not_le.1 all), receive_of_piece_lt short, List.length_drop, left,
      ← List.append_assoc, List.take_append_drop]

/-- Asking for some bytes and then for more is asking for all of them. -/
theorem receive_add (m n : Nat) (s : Source) :
    receive (m + n) s = (receive m s).andThen (receive n) := by
  rcases Nat.eq_zero_or_pos m with rfl | pos
  · rw [Nat.zero_add, receive]
    rfl
  induction s generalizing m with
  | nil =>
    obtain ⟨m, rfl⟩ := Nat.exists_eq_add_one.2 pos
    rw [Nat.add_right_comm, receive, receive]
    rfl
  | cons a s ih =>
    cases a with
    | data bytes =>
      by_cases enough : m ≤ bytes.length
      · rw [receive_of_piece_le pos enough, receive_add_of_piece pos enough]
        rfl
      · have more : m + n - bytes.length = m - bytes.length + n := by omega
        rw [receive_of_piece_lt (by omega), receive_of_piece_lt (by omega), more,
          ih (m - bytes.length) (by omega)]
        exact (Received.behind_andThen bytes _ _).symm
    | interrupted =>
      have again := ih m pos
      obtain ⟨m, rfl⟩ := Nat.exists_eq_add_one.2 pos
      rw [Nat.add_right_comm] at again ⊢
      rw [receive, receive]
      exact again
    | closed | failed =>
      obtain ⟨m, rfl⟩ := Nat.exists_eq_add_one.2 pos
      rw [Nat.add_right_comm, receive, receive]
      rfl

/-! ## Readings that span bytes -/

/-- From every stream the reading goes as far as receiving `n` bytes does, and fails, for a fault of
the stream, just when these are not all there. -/
def Spans {α : Type} (r : Attempt Source α) (n : Nat) : Prop :=
  ∀ s, match (receive n s).halt with
    | none => ∃ a, r.run s = (.ok a, (receive n s).rest)
    | some _ => ∃ cause, r.run s = (.error (.transport cause), (receive n s).rest)

section

variable {α β : Type} {r : Attempt Source α} {next : α → Attempt Source β}

theorem spans_pure (a : α) : Spans (pure a) 0 := by
  intro s
  rw [receive]
  exact ⟨a, rfl⟩

theorem Spans.bind (hr : Spans r m) (hn : ∀ a, Spans (next a) n) : Spans (r >>= next) (m + n) := by
  intro s
  have first := hr s
  rw [receive_add]
  unfold Received.andThen
  cases halt : (receive m s).halt with
  | some why =>
    rw [halt] at first
    obtain ⟨cause, run⟩ := first
    dsimp only
    rw [halt]
    exact ⟨cause, Attempt.run_bind_error run⟩
  | none =>
    rw [halt] at first
    obtain ⟨a, run⟩ := first
    rw [Attempt.run_bind_ok run]
    exact hn a (receive m s).rest

end

theorem spans_exactly (n : Nat) : Spans (exactly n) n := by
  intro s
  unfold Attempt.run exactly
  dsimp only
  cases (receive n s).halt with
  | none => exact ⟨_, rfl⟩
  | some why =>
    cases why with
    | closed => exact ⟨_, rfl⟩
    | failed why => exact ⟨_, rfl⟩

theorem spans_skipPieces (k : Nat) : Spans (skipPieces k) (scrap * k) := by
  induction k with
  | zero => exact spans_pure ()
  | succ k ih =>
    rw [Nat.mul_succ, Nat.add_comm (scrap * k)]
    exact (spans_exactly scrap).bind fun _ => ih

/-- However bytes are thrown away, the stream is read as far as for receiving them. -/
theorem spans_skip (count : Nat) : Spans (skip count) count := by
  have all := (spans_skipPieces (count / scrap)).bind fun _ =>
    (spans_exactly (count % scrap)).bind fun _ => spans_pure ()
  rwa [Nat.add_zero, Nat.div_add_mod] at all

/-- **Bytes are thrown away as they are received.**  Either the stream has `n` bytes to give; then
receiving them gives just these, in order, as bytes or as a frame, and throwing `n` bytes away leaves
the same stream behind them.  Or it stops before; then all ways fail, at the same place. -/
theorem skip_as_exactly [Platform] (n : Nat) (s : Source) :
    (∃ bs t, exactly n s = (.ok bs, t) ∧ skip n s = (.ok (), t) ∧
      (bs.length = n ∧ s.bytes = bs ++ t.bytes) ∧
      (Memory.refusal? n 1 = none →
        ∀ order, frame order n s = (.ok { order, bytes := bs }, t))) ∨
    ∃ cause cause' t, exactly n s = (.error (.transport cause), t) ∧
      skip n s = (.error (.transport cause'), t) ∧
      (Memory.refusal? n 1 = none →
        ∀ order, frame order n s = (.error (.transport cause), t)) := by
  have received := spans_exactly n s
  have skipped := spans_skip n s
  cases halt : (receive n s).halt with
  | none =>
    rw [halt] at received skipped
    obtain ⟨bs, run⟩ := received
    obtain ⟨_, run'⟩ := skipped
    obtain ⟨taken, _, split, rfl, rfl, full⟩ := spends_exactly n s bs _ s.bytes run rfl
    refine .inl ⟨taken, _, run, run', ⟨full, split⟩, fun memory order => ?_⟩
    unfold frame
    rw [memory]
    exact Attempt.run_bind_ok run
  | some why =>
    rw [halt] at received skipped
    obtain ⟨cause, run⟩ := received
    obtain ⟨cause', run'⟩ := skipped
    refine .inr ⟨cause, cause', _, run, run', fun memory order => ?_⟩
    unfold frame
    rw [memory]
    exact Attempt.run_bind_error run

end Source

end BoxOffice
