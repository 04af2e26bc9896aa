import BoxOffice.Fault
/-!
# Attempts

An `Attempt σ α` works on a `σ` and answers a value or a `Fault`; either way it says what it leaves
of the `σ`.  A sequence of attempts stops at the first fault, and what that one left is what the
sequence leaves.
-/

namespace BoxOffice

/-- A step that works on a `σ` and answers an `α` or a fault. -/
def Attempt (σ α : Type) := σ → Except Fault α × σ

namespace Attempt

variable {σ τ α β : Type}

def run (r : Attempt σ α) (s : σ) : Except Fault α × σ := r s

/-- Answers `a` and changes nothing. -/
def give (a : α) : Attempt σ α := fun s => (.ok a, s)

/-- Fails and changes nothing. -/
def fail (fault : Fault) : Attempt σ α := fun s => (.error fault, s)

/-- The second step works on what the first one left, unless that one failed. -/
def andThen (r : Attempt σ α) (next : α → Attempt σ β) : Attempt σ β := fun s =>
  match r s with
  | (.ok a, s) => next a s
  | (.error fault, s) => (.error fault, s)

instance : Monad (Attempt σ) where
  pure := give
  bind := andThen

def look (f : σ → α) : Attempt σ α := fun s => (.ok (f s), s)

def change (f : σ → σ) : Attempt σ Unit := fun s => (.ok (), f s)

/-- Answers what has been found out already. -/
def settled (result : Except Fault α) : Attempt σ α := fun s => (result, s)

/-- The step, taken on a part of a larger whole. -/
def within (part : τ → σ) (mend : σ → τ → τ) (r : Attempt σ α) : Attempt τ α := fun t =>
  let (result, s) := r (part t)
  (result, mend s t)

@[simp] theorem run_pure (a : α) (s : σ) : (pure a : Attempt σ α).run s = (.ok a, s) := rfl

@[simp] theorem run_fail (fault : Fault) (s : σ) :
    (fail fault : Attempt σ α).run s = (.error fault, s) := rfl

@[simp] theorem run_look (f : σ → α) (s : σ) : (look f).run s = (.ok (f s), s) := rfl

@[simp] theorem run_change (f : σ → σ) (s : σ) : (change f).run s = (.ok (), f s) := rfl

@[simp] theorem run_settled (result : Except Fault α) (s : σ) :
    (settled result).run s = (result, s) := rfl

@[simp] theorem run_within (part : τ → σ) (mend : σ → τ → τ) (r : Attempt σ α) (t : τ) :
    (r.within part mend).run t = ((r.run (part t)).1, mend (r.run (part t)).2 t) := rfl

theorem run_bind (r : Attempt σ α) (next : α → Attempt σ β) (s : σ) :
    (r >>= next).run s = match r.run s with
      | (.ok a, s) => (next a).run s
      | (.error fault, s) => (.error fault, s) := rfl

theorem run_bind_ok {r : Attempt σ α} {next : α → Attempt σ β} {s t : σ} {a : α}
    (h : r.run s = (.ok a, t)) : (r >>= next).run s = (next a).run t := by
  rw [run_bind, h]

theorem run_bind_error {r : Attempt σ α} {next : α → Attempt σ β} {s t : σ} {fault : Fault}
    (h : r.run s = (.error fault, t)) : (r >>= next).run s = (.error fault, t) := by
  rw [run_bind, h]

end Attempt

end BoxOffice
