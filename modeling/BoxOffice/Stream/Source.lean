import BoxOffice.Attempt
import BoxOffice.Memory
/-!
# Sources

What will come out of a stream, as a list of arrivals in order.  One read answers bytes of one
arrival only, at most as many as are asked for; a read may also be interrupted, fail, or find the
stream closed.  After the last arrival every read finds it closed.

* `receive` asks again and again until it has all the bytes it wants, is told that the stream is
  closed, or fails; an interruption is no failure.
* `exactly`, `byte?` and `skip` are the readings that messages are decoded with.

`receive_bytes_append` says that receiving loses and invents nothing: the bytes received and the bytes
left are the bytes that were there.
-/

namespace BoxOffice

inductive Arrival where
  /-- Bytes arrive. -/
  | data (bytes : List UInt8)
  /-- One read finds the stream closed. -/
  | closed
  /-- One read is interrupted and can be tried again. -/
  | interrupted
  /-- One read fails. -/
  | failed (why : String)
  deriving DecidableEq, Repr

def Arrival.bytes : Arrival → List UInt8
  | .data bytes => bytes
  | _ => []

/-- The arrivals that are still to come. -/
abbrev Source := List Arrival

/-- Why a stream stopped before it had given all it was asked for. -/
inductive Halt where
  | closed
  | failed (why : String)
  deriving DecidableEq, Repr

/-- What came of asking a stream for a number of bytes. -/
structure Received where
  bytes : List UInt8
  /-- `none` when all bytes came. -/
  halt : Option Halt
  rest : Source
  deriving DecidableEq, Repr

namespace Source

def bytes (s : Source) : List UInt8 := s.flatMap Arrival.bytes

/-- No bytes and no incidents are to come. -/
def isSpent (s : Source) : Bool := s.all fun a => match a with
  | .data bytes => bytes.isEmpty
  | _ => false

/-- A bound on the number of reads that the stream can answer with something. -/
def weight : Source → Nat
  | [] => 0
  | a :: s => a.bytes.length + 1 + weight s

/-- Asks for `n` bytes until they are there or the stream stops. -/
def receive : Nat → Source → Received
  | 0, s => ⟨[], none, s⟩
  | _ + 1, [] => ⟨[], some .closed, []⟩
  | n + 1, .data bytes :: s =>
    let got := bytes.take (n + 1)
    if got.length = n + 1 then ⟨got, none, .data (bytes.drop (n + 1)) :: s⟩
    else
      let more := receive (n + 1 - got.length) s
      { more with bytes := got ++ more.bytes }
  | _ + 1, .closed :: s => ⟨[], some .closed, s⟩
  | n + 1, .interrupted :: s => receive (n + 1) s
  | _ + 1, .failed why :: s => ⟨[], some (.failed why), s⟩

/-- How the fault of a stream that stopped early is reported. -/
def stopped (got wanted : Nat) : Halt → Fault
  | .closed => .transport (.closedAfter got wanted)
  | .failed why => .transport (.readFailed why)

def exactly (n : Nat) : Attempt Source (List UInt8) := fun s =>
  let r := receive n s
  match r.halt with
  | none => (.ok r.bytes, r.rest)
  | some halt => (.error (stopped r.bytes.length n halt), r.rest)

/-- The next byte; `none` when the stream is closed. -/
def byte? : Attempt Source (Option UInt8)
  | [] => (.ok none, [])
  | .data [] :: s => byte? s
  | .data (b :: bytes) :: s => (.ok (some b), .data bytes :: s)
  | .closed :: s => (.ok none, s)
  | .interrupted :: s => byte? s
  | .failed why :: s => (.error (.transport (.readFailed why)), s)

/-- The size of the pieces in which bytes are thrown away. -/
def scrap : Nat := 512

def skipPieces : Nat → Attempt Source Unit
  | 0 => pure ()
  | k + 1 => do
    let _ ← exactly scrap
    skipPieces k

/-- Throws away exactly `count` bytes. -/
def skip (count : Nat) : Attempt Source Unit := do
  skipPieces (count / scrap)
  let _ ← exactly (count % scrap)
  return ()

/-! ## Small laws -/

@[simp] theorem bytes_nil : bytes [] = [] := rfl

@[simp] theorem bytes_cons (a : Arrival) (s : Source) : bytes (a :: s) = a.bytes ++ bytes s := rfl

/-- Receiving neither loses nor invents bytes. -/
theorem receive_bytes_append (n : Nat) (s : Source) :
    (receive n s).bytes ++ (receive n s).rest.bytes = s.bytes := by
  fun_induction receive n s with
  | case1 | case2 | case5 | case7 => rfl
  | case3 n bytes s got h =>
    simp only [bytes_cons, Arrival.bytes, ← List.append_assoc, got, List.take_append_drop]
  | case4 n bytes s got h more ih =>
    have all : got = bytes := by
      refine List.take_of_length_le (Nat.le_of_lt ?_)
      have := List.length_take (i := n + 1) (l := bytes)
      simp only [got] at h
      omega
    simp only [bytes_cons, Arrival.bytes, List.append_assoc, all] at ih ⊢
    rw [← ih]
    simp [more, all]
  | case6 n s ih => simpa [Arrival.bytes] using ih

theorem weight_cons (a : Arrival) (s : Source) :
    weight (a :: s) = a.bytes.length + 1 + weight s := rfl

theorem weight_lt_of_byte? {s t : Source} {b : UInt8} (h : byte? s = (.ok (some b), t)) :
    weight t < weight s := by
  fun_induction byte? s with
  | case1 | case4 | case6 => simp at h
  | case2 s ih | case5 s ih =>
    have := ih h
    rw [weight_cons]
    omega
  | case3 b' bytes s =>
    simp only [Prod.mk.injEq] at h
    obtain ⟨-, rfl⟩ := h
    simp [weight_cons, Arrival.bytes]

theorem weight_receive_le (n : Nat) (s : Source) : weight (receive n s).rest ≤ weight s := by
  fun_induction receive n s with
  | case1 => exact Nat.le_refl _
  | case2 => exact Nat.le_refl _
  | case3 n bytes s got h => simp only [weight_cons, Arrival.bytes, List.length_drop]; omega
  | case4 n bytes s got h more ih =>
    have : weight more.rest ≤ weight s := ih
    simp only [weight_cons]
    omega
  | case5 n s => simp only [weight_cons]; omega
  | case6 n s ih => simp only [weight_cons]; omega
  | case7 n why s => simp only [weight_cons]; omega

/-- A reading after which no stream is heavier than before. -/
def Lightens {α : Type} (r : Attempt Source α) : Prop := ∀ s, weight (r.run s).2 ≤ weight s

theorem Lightens.pure {α : Type} (a : α) : Lightens (Pure.pure a) := fun _ => Nat.le_refl _

theorem Lightens.fail {α : Type} (fault : Fault) : Lightens (Attempt.fail fault : Attempt _ α) :=
  fun _ => Nat.le_refl _

theorem Lightens.bind {α β : Type} {r : Attempt Source α} {next : α → Attempt Source β}
    (hr : Lightens r) (hn : ∀ a, Lightens (next a)) : Lightens (r >>= next) := by
  intro s
  have h := hr s
  rw [Attempt.run_bind]
  split
  · rename_i a t e
    rw [e] at h
    exact Nat.le_trans (hn a t) h
  · rename_i fault t e
    rwa [e] at h

theorem lightens_exactly (n : Nat) : Lightens (exactly n) := by
  intro s
  have := weight_receive_le n s
  simp only [Attempt.run, exactly]
  split <;> exact this

theorem lightens_skip (count : Nat) : Lightens (skip count) := by
  have pieces : ∀ k, Lightens (skipPieces k) := by
    intro k
    induction k with
    | zero => exact .pure ()
    | succ k ih => exact (lightens_exactly _).bind fun _ => ih
  exact (pieces _).bind fun _ => (lightens_exactly _).bind fun _ => .pure ()

end Source

end BoxOffice
