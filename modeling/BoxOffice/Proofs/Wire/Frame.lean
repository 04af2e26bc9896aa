import BoxOffice.Proofs.Stream.Delivery
import BoxOffice.Wire.Frame
/-!
# Fields in frames

`Frame.Takes order take bs a` says that from every frame that begins with `bs` taking `take` takes
just these bytes and answers `a`.  Numbers are taken as they were written (`takes_word32`,
`takes_word64`, `takes_int32`), and so are arrays of them (`takes_many`).  A frame all of whose bytes
are taken is a reading that consumes them (`Source.consumes_fields`).
-/

namespace BoxOffice

namespace Frame

/-- From every frame that begins with `bs`, these bytes are taken and the answer is `a`. -/
def Takes {α : Type} (order : ByteOrder) (take : Attempt Frame α) (bs : List UInt8) (a : α) : Prop :=
  ∀ rest, take.run { order, bytes := bs ++ rest } = (.ok a, { order, bytes := rest })

section

variable {α β : Type} {order : ByteOrder} {take : Attempt Frame α} {next : α → Attempt Frame β}
  {xs ys : List UInt8}

theorem takes_pure (a : α) : Takes order (pure a) [] a := fun _ => rfl

theorem Takes.bind {a : α} {b : β} (ht : Takes order take xs a) (hn : Takes order (next a) ys b) :
    Takes order (take >>= next) (xs ++ ys) b := by
  intro rest
  rw [List.append_assoc]
  exact (Attempt.run_bind_ok (ht _)).trans (hn rest)

theorem Takes.map {a : α} {b : β} (ht : Takes order take xs a) (hn : Takes order (next a) [] b) :
    Takes order (take >>= next) xs b := by
  have := ht.bind hn
  rwa [List.append_nil] at this

end

variable (order : ByteOrder)

theorem takes_raw (bs : List UInt8) : Takes order (raw bs.length) bs bs := by
  intro rest
  show raw bs.length _ = _
  unfold raw
  dsimp only
  rw [List.take_left, List.drop_left, if_neg (Nat.lt_irrefl _)]

variable [Platform]

theorem takes_number (bs : List UInt8) : Takes order (number bs.length) bs (order.read bs) := by
  intro rest
  have := takes_raw order bs rest
  show number bs.length _ = _
  unfold number
  rw [show raw bs.length _ = _ from this]

theorem takes_word32 (n : UInt32) : Takes order word32 (order.word32 n) n := by
  have written : order.read (order.word32 n) = n.toNat := order.read_write n.toNat_lt
  have number := takes_number order (order.word32 n)
  rw [order.length_word32, written] at number
  refine number.map (?_ : Takes order (pure (UInt32.ofNat n.toNat)) [] n)
  rw [UInt32.ofNat_toNat]
  exact takes_pure n

theorem takes_word64 (n : UInt64) : Takes order word64 (order.word64 n) n := by
  have written : order.read (order.word64 n) = n.toNat := order.read_write n.toNat_lt
  have number := takes_number order (order.word64 n)
  rw [order.length_word64, written] at number
  refine number.map (?_ : Takes order (pure (UInt64.ofNat n.toNat)) [] n)
  rw [UInt64.ofNat_toNat]
  exact takes_pure n

theorem takes_int32 (n : Int32) : Takes order int32 (order.int32 n) n :=
  (takes_word32 order n.toUInt32).map (takes_pure _)

omit [Platform] in
/-- Values of one kind are taken in order, after those that were taken before. -/
theorem takes_manyAfter {α : Type} {take : Attempt Frame α} {put : α → List UInt8}
    (each : ∀ a, Takes order take (put a) a) (as before : List α) :
    Takes order (manyAfter take as.length before) (as.flatMap put) (before.reverse ++ as) := by
  intro rest
  induction as generalizing before with
  | nil =>
    rw [List.append_nil]
    rfl
  | cons a as ih =>
    show manyAfter take (as.length + 1) before _ = _
    rw [List.flatMap_cons, List.append_assoc, manyAfter, show take _ = _ from each a _]
    dsimp only
    rw [show manyAfter take as.length (a :: before) _ = _ from ih (a :: before),
      List.reverse_cons, List.append_assoc, List.singleton_append]

theorem takes_many {α : Type} {take : Attempt Frame α} {put : α → List UInt8}
    (each : ∀ a, Takes order take (put a) a) {width : Nat} (as : List α)
    (memory : Memory.refusal? as.length width = none) :
    Takes order (many take width as.length) (as.flatMap put) as := by
  unfold many
  rw [memory]
  exact takes_manyAfter order each as []

end Frame

namespace Source

variable [Platform]

/-- A frame that memory is there for is received, whatever its fields then come to. -/
theorem consumes_fields_answer {α : Type} {order : ByteOrder} {take : Attempt Frame α}
    {bs : List UInt8} {answer : Except Fault α} {length : Nat} (hlength : bs.length = length)
    (memory : Memory.refusal? length 1 = none) (ht : (take { order, bytes := bs }).1 = answer) :
    Consumes (fields order length take) bs answer := by
  intro quiet s ys rest h
  obtain ⟨t, hexactly, hgives⟩ := consumes_exactly bs quiet s ys rest h
  have received : frame order length s = (.ok { order, bytes := bs }, t) := by
    unfold frame
    rw [memory, ← hlength]
    exact Attempt.run_bind_ok hexactly
  refine ⟨t, ?_, hgives⟩
  show fields order length take s = _
  unfold fields
  rw [received, ← ht]

/-- A frame that memory is there for is received and its fields are taken. -/
theorem consumes_fields {α : Type} {order : ByteOrder} {take : Attempt Frame α} {bs : List UInt8}
    {a : α} {length : Nat} (hlength : bs.length = length) (memory : Memory.refusal? length 1 = none)
    (ht : Frame.Takes order take bs a) : Consumes (fields order length take) bs (.ok a) := by
  refine consumes_fields_answer hlength memory ?_
  have taken := ht []
  rw [List.append_nil] at taken
  exact congrArg Prod.fst taken

/-- For a frame of fixed length memory is always there. -/
theorem consumes_fixed {α : Type} {order : ByteOrder} {take : Attempt Frame α} {bs : List UInt8}
    {a : α} {length : Nat} (hlength : bs.length = length) (short : length ≤ longestFixedFrame)
    (ht : Frame.Takes order take bs a) : Consumes (fields order length take) bs (.ok a) :=
  consumes_fields hlength (Memory.refusal?_of_fixed short) ht

end Source

end BoxOffice
