import BoxOffice.Proofs.Stream.Delivery
/-!
# Readings that are broken off

`Source.Consumes` says what becomes of a reading that gets all its bytes.  `Breaks r bs` is about a
stream that is found closed before it has given all of `bs`, wherever that is: the reading `r` then
fails, and the fault says that the stream was closed.  A reading put together of others is broken off
within the first or, when this one has all its bytes, within the second (`Breaks.bind`).

Main facts: `breaks_exactly` and `breaks_skip`.
-/

namespace BoxOffice

namespace Source

variable {quiet : Bool} {s rest left : Source} {bs xs ys : List UInt8}

/-- From every stream that gives part of `bs` only and is closed then, the reading fails for want of
more bytes, and leaves what comes after the stream was found closed. -/
def Breaks {α : Type} (r : Attempt Source α) (bs : List UInt8) : Prop :=
  ∀ quiet s part rest left, part <+: bs → part ≠ bs → Gives quiet s part rest →
    byte? rest = (.ok none, left) →
    ∃ got wanted, got < wanted ∧ r.run s = (.error (.transport (.closedAfter got wanted)), left)

/-! ## Receiving -/

theorem receive_of_closed (n : Nat) (h : byte? s = (.ok none, left)) :
    receive (n + 1) s = ⟨[], some .closed, left⟩ := by
  fun_induction byte? s with
  | case1 | case4 =>
    cases h
    rfl
  | case2 s ih =>
    rw [receive]
    simp [ih h]
  | case5 s ih =>
    rw [receive]
    exact ih h
  | case3 | case6 => cases h

/-- Asking for more bytes than a stream has gets all that there are. -/
theorem receive_of_gives_closed (h : Gives quiet s bs rest) (closed : byte? rest = (.ok none, left))
    {n : Nat} (short : bs.length < n) : receive n s = ⟨bs, some .closed, left⟩ := by
  obtain ⟨front, calm, rfl, rfl⟩ := h
  induction front generalizing n with
  | nil =>
    obtain ⟨k, rfl⟩ := Nat.exists_eq_add_one.2 short
    exact receive_of_closed k closed
  | cons a front ih =>
    obtain ⟨ha, calm'⟩ := List.forall_mem_cons.1 calm
    cases a with
    | closed | failed => cases ha
    | interrupted =>
      obtain ⟨k, rfl⟩ := Nat.exists_eq_add_one.2 (Nat.zero_lt_of_lt short)
      rw [List.cons_append, receive]
      exact ih calm' short
    | data bytes =>
      have sum : (Source.bytes (.data bytes :: front)).length =
          bytes.length + (Source.bytes front).length := List.length_append
      rw [List.cons_append, receive_of_piece_lt (by omega), ih calm' (by omega)]
      rfl

/-! ## Readings -/

section

variable {α β : Type} {r : Attempt Source α} {next : α → Attempt Source β}

/-- A reading that needs no bytes is not broken off. -/
theorem breaks_nil (r : Attempt Source α) : Breaks r [] := by
  intro quiet s part rest left initial proper
  exact absurd (List.prefix_nil.1 initial) proper

/-- What follows a reading that is broken off is not begun. -/
theorem Breaks.andThen (h : Breaks r bs) (next : α → Attempt Source β) :
    Breaks (r >>= next) bs := by
  intro quiet s part rest left initial proper gives closed
  obtain ⟨got, wanted, short, run⟩ := h quiet s part rest left initial proper gives closed
  exact ⟨got, wanted, short, Attempt.run_bind_error run⟩

/-- The stream stops within the first reading or within the second. -/
theorem Breaks.bind {a : α} (hr : Breaks r xs) (whole : Consumes r xs (.ok a))
    (hn : Breaks (next a) ys) : Breaks (r >>= next) (xs ++ ys) := by
  intro quiet s part rest left initial proper gives closed
  by_cases enough : xs <+: part
  · obtain ⟨part', rfl⟩ := enough
    obtain ⟨t, first, gives'⟩ := whole quiet s part' rest gives
    have initial' : part' <+: ys := (List.prefix_append_right_inj xs).1 initial
    have proper' : part' ≠ ys := fun same => proper (by rw [same])
    obtain ⟨got, wanted, short, run⟩ := hn quiet t part' rest left initial' proper' gives' closed
    exact ⟨got, wanted, short, (Attempt.run_bind_ok first).trans run⟩
  · have initial' : part <+: xs :=
      (List.prefix_or_prefix_of_prefix initial (List.prefix_append xs ys)).resolve_right enough
    have proper' : part ≠ xs := fun same => enough (same ▸ List.prefix_rfl)
    exact hr.andThen next quiet s part rest left initial' proper' gives closed

end

theorem breaks_exactly (bs : List UInt8) : Breaks (exactly bs.length) bs := by
  intro quiet s part rest left initial proper gives closed
  have short : part.length < bs.length := by
    refine Nat.lt_of_le_of_ne initial.length_le fun same => ?_
    exact proper (initial.eq_of_length same)
  refine ⟨part.length, bs.length, short, ?_⟩
  show exactly bs.length s = _
  unfold exactly
  rw [receive_of_gives_closed gives closed short]
  rfl

theorem breaks_skipPieces {k : Nat} (h : bs.length = scrap * k) : Breaks (skipPieces k) bs := by
  induction k generalizing bs with
  | zero =>
    rw [List.eq_nil_of_length_eq_zero h]
    exact breaks_nil _
  | succ k ih =>
    rw [Nat.mul_succ, Nat.add_comm] at h
    obtain ⟨piece, others, rfl, hpiece, hothers⟩ := exists_append_of_length h
    have first := breaks_exactly piece
    have whole := consumes_exactly piece
    rw [hpiece] at first whole
    exact first.bind whole (ih hothers)

/-- Bytes that are to be thrown away have to be there. -/
theorem breaks_skip (bs : List UInt8) : Breaks (skip bs.length) bs := by
  obtain ⟨pieces, part, split, hpieces, hpart⟩ :=
    exists_append_of_length (Nat.div_add_mod bs.length scrap).symm
  have last := breaks_exactly part
  rw [hpart] at last
  have all : Breaks (skip bs.length) (pieces ++ part) :=
    (breaks_skipPieces hpieces).bind (consumes_skipPieces hpieces) (last.andThen _)
  rwa [← split] at all

end Source

end BoxOffice
