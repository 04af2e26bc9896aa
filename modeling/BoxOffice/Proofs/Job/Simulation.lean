import BoxOffice.Job.Basic
import BoxOffice.Proofs.Script.Reader
/-!
# Desks that answer alike

Two desks that answer the same requests alike, and stay alike, make no difference to a job: it says
and counts the same and ends the same way (`Job.run_of_simulates`).  Only the requests that stand in
the job's script matter.
-/

namespace BoxOffice

variable {σ τ : Type}

/-- Alike, the desks answer each of these requests alike and are alike afterwards. -/
def Desk.Simulates (desk : Desk σ) (other : Desk τ) (alike : σ → τ → Prop) (p : Request → Prop) :
    Prop :=
  ∀ m s t, p m → alike s t → (desk m s).1 = (other m t).1 ∧ alike (desk m s).2 (other m t).2

/-- Each request that the script makes is one of these. -/
def ScriptReader.Asks (r : ScriptReader) (p : Request → Prop) : Prop :=
  ∀ c m, r.Reads c → c.request? = some m → p m

namespace Job

/-- Where two jobs stand, the desks apart, is the same. -/
structure Alike (alike : σ → τ → Prop) (j : Job σ) (k : Job τ) : Prop where
  office : alike j.office k.office
  reader : j.reader = k.reader
  record : j.record = k.record

variable {desk : Desk σ} {other : Desk τ} {alike : σ → τ → Prop} {p : Request → Prop}
  {j : Job σ} {k : Job τ}

theorem ask_of_simulates (sim : desk.Simulates other alike p) {m : Request} (hm : p m)
    (same : Alike alike j k) :
    (j.ask desk m).1 = (k.ask other m).1 ∧ Alike alike (j.ask desk m).2 (k.ask other m).2 := by
  obtain ⟨answers, after⟩ := sim m j.office k.office hm same.office
  unfold ask
  rcases hj : desk m j.office with ⟨answer, s⟩
  rcases hk : other m k.office with ⟨answer', t⟩
  rw [hj, hk] at answers after
  obtain rfl : answer = answer' := answers
  cases answer with
  | error fault => exact ⟨rfl, after, same.reader, congrArg JobRecord.asked same.record⟩
  | ok answer =>
    dsimp only
    rw [same.record]
    exact ⟨rfl, after, same.reader, rfl⟩

theorem step_of_simulates (sim : desk.Simulates other alike p) (asks : j.reader.Asks p)
    (same : Alike alike j k) :
    (j.step desk).1 = (k.step other).1 ∧ Alike alike (j.step desk).2 (k.step other).2 := by
  unfold step
  rw [← same.reader]
  rcases hnext : j.reader.next with ⟨fault | c, reader⟩
  · exact ⟨rfl, same.office, rfl, same.record⟩
  · dsimp only
    cases hc : c.request? with
    | none =>
      refine ⟨rfl, same.office, rfl, ?_⟩
      dsimp only
      rw [same.record]
    | some m =>
      have moved : Alike alike { j with reader } { k with reader } :=
        ⟨same.office, rfl, same.record⟩
      obtain ⟨results, after⟩ :=
        ask_of_simulates sim (asks c m (ScriptReader.reads_of_next hnext) hc) moved
      refine ⟨?_, after⟩
      dsimp only
      rw [results]

/-- A job that goes on has read one command. -/
theorem advances_of_step {l : Job σ} (h : j.step desk = (.ok true, l)) :
    j.reader.Advances l.reader := by
  unfold step at h
  rcases hnext : j.reader.next with ⟨fault | c, reader⟩
  · rw [hnext] at h
    cases h
  · rw [hnext] at h
    dsimp only at h
    split at h
    · have kept := congrArg (·.2.reader) h
      dsimp only at kept
      rw [reader_ask] at kept
      exact ⟨c, by rw [← kept, hnext]⟩
    · obtain ⟨-, rfl⟩ := Prod.mk.inj h
      exact ⟨c, hnext⟩

theorem asks_of_step {l : Job σ} (h : j.step desk = (.ok true, l)) (asks : j.reader.Asks p) :
    l.reader.Asks p :=
  fun c m hc hm => asks c m (hc.of_advances (advances_of_step h)) hm

/-! ## Runs -/

theorem run_eq (desk : Desk σ) (j : Job σ) :
    j.run desk = match j.step desk with
      | (.error fault, l) => (.error fault, l)
      | (.ok true, l) => l.run desk
      | (.ok false, l) =>
        (l.record.out.finish.1.map fun _ => l.record.summary,
          { l with record := { l.record with out := l.record.out.finish.2 } }) := by
  rw [run]
  split
  · rename_i e
    rw [e]
  · rename_i e
    rw [e]
  · rename_i e
    rw [e]

/-- Carrying commands out leads from one state of a job to another. -/
def Reaches (desk : Desk σ) : Job σ → Job σ → Prop :=
  Relation.ReflTransGen fun j l => j.step desk = (.ok true, l)

/-- Whatever state the one job comes to, the other comes to one that is alike. -/
theorem reaches_of_simulates (sim : desk.Simulates other alike p) (asks : j.reader.Asks p)
    (same : Alike alike j k) {l : Job σ} (h : j.Reaches desk l) :
    l.reader.Asks p ∧ ∃ l', k.Reaches other l' ∧ Alike alike l l' := by
  induction h with
  | refl => exact ⟨asks, k, .refl, same⟩
  | tail _ step ih =>
    obtain ⟨asks, k', reached, same⟩ := ih
    obtain ⟨results, after⟩ := step_of_simulates sim asks same
    rw [step] at results after
    exact ⟨asks_of_step step asks, _, .tail reached (Prod.ext results.symm rfl), after⟩

theorem run_of_simulates (sim : desk.Simulates other alike p) (asks : j.reader.Asks p)
    (same : Alike alike j k) :
    (j.run desk).1 = (k.run other).1 ∧ Alike alike (j.run desk).2 (k.run other).2 := by
  generalize hw : j.reader.rest.length = w
  induction w using Nat.strongRecOn generalizing j k with
  | ind w ih =>
    subst hw
    obtain ⟨results, after⟩ := step_of_simulates sim asks same
    rcases hj : j.step desk with ⟨result, j'⟩
    rcases hk : k.step other with ⟨result', k'⟩
    rw [hj, hk] at results after
    obtain rfl : result = result' := results
    rw [run_eq, run_eq, hj, hk]
    cases result with
    | error fault => exact ⟨rfl, after⟩
    | ok goes_on =>
      cases goes_on with
      | true =>
        have shorter := step_lt hj
        exact ih _ shorter (asks_of_step hj asks) after rfl
      | false =>
        dsimp only
        rw [after.record]
        exact ⟨rfl, after.office, after.reader, rfl⟩

end Job

end BoxOffice
