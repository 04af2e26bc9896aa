import BoxOffice.Stream.Source
/-!
# Bytes that are gone

`Source.Consumes` says what a reading does with bytes of which it is known what they are.  Here it is
the other way round: a reading has answered, and the question is which bytes it took for that.
`Attempt.Spends holds r p` says that whenever `r` answers `a`, the bytes it took off the front of what
was there stand in the relation `p` to `a`; nothing is said of what comes behind them.

A sequence of attempts takes the bytes of one after those of the other (`Spends.bind`).  Streams are
read by `spends_byte?` and `spends_exactly`.
-/

namespace BoxOffice

namespace Attempt

/-- Whenever the attempt answers, `p` holds of the bytes it has taken and its answer.  What is there
to be taken is told by `holds`. -/
def Spends {σ α : Type} (holds : σ → List UInt8 → Prop) (r : Attempt σ α)
    (p : List UInt8 → α → Prop) : Prop :=
  ∀ s a t whole, r.run s = (.ok a, t) → holds s whole →
    ∃ bs left, whole = bs ++ left ∧ holds t left ∧ p bs a

section

variable {σ α β : Type} {holds : σ → List UInt8 → Prop} {r : Attempt σ α}
  {next : α → Attempt σ β} {p : List UInt8 → α → Prop} {q : List UInt8 → β → Prop}

/-- Answering without a look takes nothing. -/
theorem spends_pure {a : α} (h : p [] a) : Spends holds (pure a) p := by
  rintro s b t whole ⟨⟩ hs
  exact ⟨[], whole, rfl, hs, h⟩

theorem spends_fail (fault : Fault) : Spends holds (.fail fault) p := by
  rintro s a t whole ⟨⟩

/-- Of what is refused in the end nothing has to be known. -/
theorem spends_refused (fault : Fault) :
    Spends holds (r >>= fun _ => .fail fault) q := by
  intro s b t whole h hs
  rw [run_bind] at h
  split at h <;> cases h

/-- What the second attempt takes comes behind what the first one has taken. -/
theorem Spends.bind (hr : Spends holds r p)
    (hn : ∀ xs a, p xs a → Spends holds (next a) fun ys b => q (xs ++ ys) b) :
    Spends holds (r >>= next) q := by
  intro s b u whole h hs
  rw [run_bind] at h
  split at h
  · rename_i a t e
    obtain ⟨xs, left, rfl, ht, first⟩ := hr s a t whole e hs
    obtain ⟨ys, rest, rfl, hu, both⟩ := hn xs a first t b u left h ht
    exact ⟨xs ++ ys, rest, (List.append_assoc ..).symm, hu, both⟩
  · cases h

/-- An attempt that is made for what it answers only. -/
theorem Spends.map {f : α → β} (hr : Spends holds r p) (hf : ∀ bs a, p bs a → q bs (f a)) :
    Spends holds (r >>= fun a => pure (f a)) q := by
  refine hr.bind fun xs a first => spends_pure ?_
  rw [List.append_nil]
  exact hf xs a first

/-- Two attempts whose bytes are told by their answers. -/
theorem Spends.pair {u : Attempt σ β} {f : α → List UInt8} {g : β → List UInt8}
    (hr : Spends holds r fun bs a => bs = f a) (hu : Spends holds u fun bs b => bs = g b) :
    Spends holds (do return (← r, ← u)) fun bs (ab : α × β) => bs = f ab.1 ++ g ab.2 := by
  refine hr.bind ?_
  rintro _ a rfl
  refine hu.map ?_
  rintro _ b rfl
  rfl

theorem Spends.mono {p' : List UInt8 → α → Prop} (hr : Spends holds r p)
    (hp : ∀ bs a, p bs a → p' bs a) : Spends holds r p' := by
  intro s a t whole h hs
  obtain ⟨bs, left, split, ht, taken⟩ := hr s a t whole h hs
  exact ⟨bs, left, split, ht, hp bs a taken⟩

end

end Attempt

namespace Source

/-- These bytes are still to come. -/
def Holds (s : Source) (bs : List UInt8) : Prop := s.bytes = bs

theorem length_receive {n : Nat} {s : Source} (h : (receive n s).halt = none) :
    (receive n s).bytes.length = n := by
  fun_induction receive n s with
  | case1 => rfl
  | case2 | case5 | case7 => cases h
  | case3 n bytes s got full => exact full
  | case4 n bytes s got short more ih =>
    have rest : more.bytes.length = n + 1 - got.length := ih h
    have most : got.length ≤ n + 1 := List.length_take_le ..
    show (got ++ more.bytes).length = n + 1
    rw [List.length_append, rest]
    omega
  | case6 n s ih => exact ih h

theorem spends_exactly (n : Nat) :
    Attempt.Spends Holds (exactly n) fun bs got => bs = got ∧ got.length = n := by
  rintro s a t whole h rfl
  unfold Attempt.run exactly at h
  dsimp only at h
  split at h
  · rename_i full
    cases h
    exact ⟨_, _, (receive_bytes_append n s).symm, rfl, rfl, length_receive full⟩
  · cases h

theorem bytes_of_byte? {s t : Source} {b? : Option UInt8} (h : byte? s = (.ok b?, t)) :
    s.bytes = b?.toList ++ t.bytes := by
  fun_induction byte? s with
  | case1 | case4 =>
    cases h
    rfl
  | case2 s ih | case5 s ih => exact ih h
  | case3 b bytes s =>
    cases h
    rfl
  | case6 => cases h

theorem spends_byte? : Attempt.Spends Holds byte? fun bs b? => bs = b?.toList := by
  rintro s b? t whole h rfl
  exact ⟨_, _, bytes_of_byte? h, rfl, rfl⟩

end Source

end BoxOffice
