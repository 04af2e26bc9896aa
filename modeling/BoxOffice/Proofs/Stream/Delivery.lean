import BoxOffice.Stream.Source
/-!
# Bytes that come in pieces

A stream `Gives` some bytes when it brings them, in whatever pieces and with whatever interruptions,
before anything else happens on it.  `Consumes r bs result` says of a reading that from every stream
that gives `bs` and then more it takes exactly `bs` and answers `result`; it says so without the
pieces, and readings put together consume the bytes of their parts (`Consumes.bind`).

Main facts: `consumes_exactly`, `consumes_skip`, and `byte?_of_gives` for single bytes.
-/

namespace BoxOffice

/-- Bytes, or an interruption where the stream need not be quiet. -/
def Arrival.isCalm (quiet : Bool) : Arrival → Bool
  | .data _ => true
  | .interrupted => !quiet
  | .closed | .failed _ => false

namespace Source

/-- The stream brings `bs`, then goes on as `rest`; it is not interrupted if it is `quiet`. -/
def Gives (quiet : Bool) (s : Source) (bs : List UInt8) (rest : Source) : Prop :=
  ∃ front : Source, (∀ a ∈ front, a.isCalm quiet = true) ∧ front.bytes = bs ∧ s = front ++ rest

variable {quiet : Bool} {s rest : Source} {bs xs ys : List UInt8}

theorem gives_nil (quiet : Bool) (rest : Source) : Gives quiet rest [] rest :=
  ⟨[], fun _ h => absurd h List.not_mem_nil, rfl, rfl⟩

theorem Gives.data (h : Gives quiet s bs rest) (bytes : List UInt8) :
    Gives quiet (.data bytes :: s) (bytes ++ bs) rest := by
  obtain ⟨front, calm, rfl, rfl⟩ := h
  exact ⟨.data bytes :: front, List.forall_mem_cons.2 ⟨rfl, calm⟩, rfl, rfl⟩

theorem gives_data (quiet : Bool) (bytes : List UInt8) (rest : Source) :
    Gives quiet (.data bytes :: rest) bytes rest := by
  have := (gives_nil quiet rest).data bytes
  rwa [List.append_nil] at this

theorem Gives.interrupted (h : Gives false s bs rest) :
    Gives false (.interrupted :: s) bs rest := by
  obtain ⟨front, calm, rfl, rfl⟩ := h
  exact ⟨.interrupted :: front, List.forall_mem_cons.2 ⟨rfl, calm⟩, rfl, rfl⟩

/-- Streams that give bytes one after the other give them together. -/
theorem Gives.append {u : Source} (h : Gives quiet s xs u) (h' : Gives quiet u ys rest) :
    Gives quiet s (xs ++ ys) rest := by
  obtain ⟨front, calm, rfl, rfl⟩ := h
  obtain ⟨front', calm', rfl, rfl⟩ := h'
  refine ⟨front ++ front', ?_, List.flatMap_append, (List.append_assoc ..).symm⟩
  intro a ha
  rcases List.mem_append.1 ha with ha | ha
  · exact calm a ha
  · exact calm' a ha

/-- More comes after what there was. -/
theorem Gives.followed (h : Gives quiet s xs []) (bytes : List UInt8) :
    Gives quiet (s ++ [.data bytes]) (xs ++ bytes) [] := by
  obtain ⟨front, calm, rfl, rfl⟩ := h
  rw [List.append_nil]
  exact Gives.append ⟨front, calm, rfl, rfl⟩ (gives_data quiet bytes [])

/-- A quiet stream that has nothing to give is spent. -/
theorem Gives.isSpent (h : Gives true s [] []) : s.isSpent = true := by
  obtain ⟨front, calm, none_left, rfl⟩ := h
  rw [List.append_nil]
  unfold Source.isSpent
  rw [List.all_eq_true]
  intro a ha
  have empty : a.bytes = [] := List.flatMap_eq_nil_iff.1 none_left a ha
  cases a with
  | data bytes => exact List.isEmpty_iff.2 empty
  | closed | interrupted | failed => cases calm _ ha

theorem Gives.bytes_eq (h : Gives quiet s bs rest) : s.bytes = bs ++ rest.bytes := by
  obtain ⟨front, -, rfl, rfl⟩ := h
  exact List.flatMap_append

/-! ## Receiving -/

/-- The first piece has all that is wanted. -/
theorem receive_of_piece_ge (xs left : List UInt8) (hx : xs ≠ []) (s : Source) :
    receive xs.length (.data (xs ++ left) :: s) = ⟨xs, none, .data left :: s⟩ := by
  cases xs with
  | nil => exact absurd rfl hx
  | cons x xs =>
    rw [List.length_cons, receive]
    have got : ((x :: xs) ++ left).take (xs.length + 1) = x :: xs := List.take_left' rfl
    have kept : ((x :: xs) ++ left).drop (xs.length + 1) = left := List.drop_left' rfl
    dsimp only
    rw [got, kept, if_pos (List.length_cons ..)]

/-- All of the first piece is wanted, and more. -/
theorem receive_of_piece_lt {bytes : List UInt8} {n : Nat} (h : bytes.length < n) (s : Source) :
    receive n (.data bytes :: s) =
      { receive (n - bytes.length) s with bytes := bytes ++ (receive (n - bytes.length) s).bytes } := by
  obtain ⟨k, rfl⟩ := Nat.exists_eq_add_one.2 (Nat.zero_lt_of_lt h)
  have got : bytes.take (k + 1) = bytes := List.take_of_length_le (Nat.le_of_lt h)
  rw [receive]
  dsimp only
  rw [got, if_neg (Nat.ne_of_lt h)]

/-- Asking for so many bytes gets them. -/
theorem receive_of_gives (h : Gives quiet s (xs ++ ys) rest) :
    ∃ t, receive xs.length s = ⟨xs, none, t⟩ ∧ Gives quiet t ys rest := by
  obtain ⟨front, calm, hbytes, rfl⟩ := h
  induction front generalizing xs with
  | nil =>
    obtain ⟨rfl, rfl⟩ := List.append_eq_nil_iff.1 hbytes.symm
    refine ⟨rest, ?_, gives_nil quiet rest⟩
    rw [List.length_nil, receive]
    rfl
  | cons a front ih =>
    obtain ⟨ha, calm'⟩ := List.forall_mem_cons.1 calm
    by_cases hx : xs = []
    · subst hx
      refine ⟨a :: (front ++ rest), ?_, a :: front, calm, hbytes, rfl⟩
      rw [List.length_nil, receive]
      rfl
    · cases a with
      | closed | failed => cases ha
      | interrupted =>
        obtain ⟨t, ht, hgives⟩ := ih calm' hbytes
        refine ⟨t, ?_, hgives⟩
        obtain ⟨n, hn⟩ := Nat.exists_eq_succ_of_ne_zero (mt List.eq_nil_of_length_eq_zero hx)
        rw [hn] at ht ⊢
        rw [List.cons_append, receive]
        exact ht
      | data bytes =>
        -- the piece ends before the bytes that are wanted, or they end first or with it
        rcases List.append_eq_append_iff.1 (show bytes ++ Source.bytes front = xs ++ ys from hbytes)
          with ⟨more, rfl, hys⟩ | ⟨left, rfl, rfl⟩
        · by_cases hm : more = []
          · subst hm
            rw [List.append_nil] at hx ⊢
            have := receive_of_piece_ge bytes [] hx (front ++ rest)
            rw [List.append_nil] at this
            exact ⟨_, this, .data [] :: front, List.forall_mem_cons.2 ⟨rfl, calm'⟩, hys, rfl⟩
          · obtain ⟨t, ht, hgives⟩ := ih calm' hys
            refine ⟨t, ?_, hgives⟩
            have pos := List.length_pos_iff.2 hm
            have sum : (bytes ++ more).length = bytes.length + more.length := List.length_append
            rw [List.cons_append, receive_of_piece_lt (by omega), sum, Nat.add_sub_cancel_left, ht]
        · exact ⟨_, receive_of_piece_ge xs left hx (front ++ rest), .data left :: front,
            List.forall_mem_cons.2 ⟨rfl, calm'⟩, rfl, rfl⟩

/-- The next byte of a stream is the first that it gives. -/
theorem byte?_of_gives {b : UInt8} (h : Gives quiet s (b :: ys) rest) :
    ∃ t, byte? s = (.ok (some b), t) ∧ Gives quiet t ys rest := by
  obtain ⟨front, calm, hbytes, rfl⟩ := h
  induction front with
  | nil => cases hbytes
  | cons a front ih =>
    obtain ⟨ha, calm'⟩ := List.forall_mem_cons.1 calm
    cases a with
    | closed | failed => cases ha
    | interrupted => exact ih calm' hbytes
    | data bytes =>
      cases bytes with
      | nil => exact ih calm' hbytes
      | cons c bytes =>
        obtain ⟨rfl, hys⟩ := List.cons.inj hbytes
        exact ⟨_, rfl, .data bytes :: front, List.forall_mem_cons.2 ⟨rfl, calm'⟩, hys, rfl⟩

/-- Where no byte is left to give, the next byte is that of the rest. -/
theorem byte?_of_gives_nil (h : Gives quiet s [] rest) : byte? s = byte? rest := by
  obtain ⟨front, calm, hbytes, rfl⟩ := h
  induction front with
  | nil => rfl
  | cons a front ih =>
    obtain ⟨ha, calm'⟩ := List.forall_mem_cons.1 calm
    cases a with
    | closed | failed => cases ha
    | interrupted => exact ih calm' hbytes
    | data bytes =>
      obtain ⟨rfl, hys⟩ := List.append_eq_nil_iff.1 hbytes
      exact ih calm' hys

/-- A stream that is spent has no byte. -/
theorem byte?_of_isSpent (h : s.isSpent = true) : byte? s = (.ok none, []) := by
  induction s with
  | nil => rfl
  | cons a s ih =>
    unfold isSpent at h ih
    rw [List.all_cons, Bool.and_eq_true] at h
    cases a with
    | closed | interrupted | failed => cases h.1
    | data bytes =>
      rw [List.isEmpty_iff.1 h.1]
      exact ih h.2

/-! ## Readings -/

/-- From every stream that gives `bs` and then more, the reading takes `bs` and answers `result`. -/
def Consumes {α : Type} (r : Attempt Source α) (bs : List UInt8) (result : Except Fault α) : Prop :=
  ∀ quiet s ys rest, Gives quiet s (bs ++ ys) rest →
    ∃ t, r.run s = (result, t) ∧ Gives quiet t ys rest

section

variable {α β : Type} {r : Attempt Source α} {next : α → Attempt Source β}

theorem consumes_pure (a : α) : Consumes (pure a) [] (.ok a) :=
  fun _ s _ _ h => ⟨s, rfl, h⟩

theorem consumes_fail (fault : Fault) :
    Consumes (.fail fault : Attempt Source α) [] (.error fault) :=
  fun _ s _ _ h => ⟨s, rfl, h⟩

/-- One reading after the other. -/
theorem Consumes.bind {a : α} {result : Except Fault β} (hr : Consumes r xs (.ok a))
    (hn : Consumes (next a) ys result) : Consumes (r >>= next) (xs ++ ys) result := by
  intro quiet s zs rest h
  rw [List.append_assoc] at h
  obtain ⟨t, ht, h⟩ := hr quiet s _ rest h
  obtain ⟨u, hu, h⟩ := hn quiet t zs rest h
  exact ⟨u, (Attempt.run_bind_ok ht).trans hu, h⟩

/-- A reading that is made for what it answers only. -/
theorem Consumes.map {a : α} {b : β} (hr : Consumes r xs (.ok a))
    (hn : Consumes (next a) [] (.ok b)) : Consumes (r >>= next) xs (.ok b) := by
  have := hr.bind hn
  rwa [List.append_nil] at this

/-- After a fault nothing more is read. -/
theorem Consumes.bind_error {fault : Fault} (hr : Consumes r xs (.error fault)) :
    Consumes (r >>= next) xs (.error fault) := by
  intro quiet s zs rest h
  obtain ⟨t, ht, h⟩ := hr quiet s _ rest h
  exact ⟨t, Attempt.run_bind_error ht, h⟩

end

theorem consumes_exactly (bs : List UInt8) : Consumes (exactly bs.length) bs (.ok bs) := by
  intro quiet s ys rest h
  obtain ⟨t, ht, hgives⟩ := receive_of_gives h
  refine ⟨t, ?_, hgives⟩
  show exactly bs.length s = _
  unfold exactly
  rw [ht]

theorem exists_append_of_length {m n : Nat} (h : bs.length = m + n) :
    ∃ xs ys, bs = xs ++ ys ∧ xs.length = m ∧ ys.length = n := by
  refine ⟨bs.take m, bs.drop m, (List.take_append_drop m bs).symm, ?_, ?_⟩
  · rw [List.length_take]
    omega
  · rw [List.length_drop]
    omega

theorem consumes_skipPieces {k : Nat} (h : bs.length = scrap * k) :
    Consumes (skipPieces k) bs (.ok ()) := by
  induction k generalizing bs with
  | zero =>
    rw [List.eq_nil_of_length_eq_zero h]
    exact consumes_pure ()
  | succ k ih =>
    rw [Nat.mul_succ, Nat.add_comm] at h
    obtain ⟨piece, others, rfl, hpiece, hothers⟩ := exists_append_of_length h
    have first := consumes_exactly piece
    rw [hpiece] at first
    exact first.bind (ih hothers)

/-- Bytes that are thrown away are gone, piece by piece. -/
theorem consumes_skip (bs : List UInt8) : Consumes (skip bs.length) bs (.ok ()) := by
  obtain ⟨pieces, part, split, hpieces, hpart⟩ :=
    exists_append_of_length (Nat.div_add_mod bs.length scrap).symm
  have last := consumes_exactly part
  rw [hpart] at last
  have all : Consumes (skip bs.length) (pieces ++ part) (.ok ()) :=
    (consumes_skipPieces hpieces).bind (last.map (consumes_pure ()))
  rwa [← split] at all

end Source

end BoxOffice
