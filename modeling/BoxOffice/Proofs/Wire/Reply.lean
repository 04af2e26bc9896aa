import BoxOffice.Proofs.Wire.Request
import BoxOffice.Wire.Reply
/-!
# Replies on the wire

Receiving a reply consumes the bytes it was sent as and gives the reply back: an outcome always
(`Outcome.consumes_decode`), a grid when it has one marker for each seat and a list when there is
memory for it (`ViewReply.consumes_decode`, `ListReply.consumes_decode`).
-/

namespace BoxOffice

open Source

variable [Platform]

/-- An array of 32-bit numbers is received when there is memory for it. -/
theorem consumes_words (order : ByteOrder) {words : List UInt32}
    (memory : Memory.refusal? (words.length * 4) 1 = none) :
    Consumes (fields order (words.length * 4) (Frame.many Frame.word32 4 words.length))
      (words.flatMap order.word32) (.ok words) := by
  refine consumes_fields (length_flatMap_of_forall order.length_word32 words) memory ?_
  refine Frame.takes_many order (Frame.takes_word32 order) words (Memory.refusal?_of_le memory ?_)
  omega

theorem consumes_arrayLength {count width : Nat}
    (memory : Memory.refusal? (count * width) 1 = none) :
    Consumes (arrayLength count width) [] (.ok (count * width)) := by
  have bound := Memory.lt_size_of_refusal? memory
  unfold arrayLength
  rw [if_neg (by omega)]
  exact consumes_pure _

theorem Outcome.consumes_decode (order : ByteOrder) (o : Outcome) :
    Consumes (Outcome.decode order) (o.encode order) (.ok o) := by
  refine consumes_fixed (order.length_int32 _) (by decide) ?_
  refine (Frame.takes_int32 order o.code).map ?_
  rw [Outcome.ofCode_code]
  exact Frame.takes_pure o

namespace ViewReply

/-- There is one marker for each seat, and memory to receive them. -/
def Fits : ViewReply → Prop
  | .found rows cols markers =>
    markers.length = rows.toNat * cols.toNat ∧ Memory.refusal? (markers.length * 4) 1 = none
  | .failed => True

theorem consumes_dimensions (order : ByteOrder) (rows cols : UInt64) :
    Consumes (fields order 16 do return (← Frame.word64, ← Frame.word64))
      (order.word64 rows ++ order.word64 cols) (.ok (rows, cols)) := by
  refine consumes_fixed (by simp) (by decide) ?_
  exact (Frame.takes_word64 order rows).bind
    ((Frame.takes_word64 order cols).map (Frame.takes_pure (rows, cols)))

theorem consumes_decode (order : ByteOrder) {reply : ViewReply} (fits : reply.Fits) :
    Consumes (ViewReply.decode order) (reply.encode order) (.ok reply) := by
  cases reply with
  | failed => exact (Outcome.consumes_decode order .failed).map (consumes_pure _)
  | found rows cols markers =>
    obtain ⟨count, memory⟩ := fits
    have bound := Memory.lt_size_of_refusal? memory
    show Consumes _ (_ ++ _ ++ _ ++ _) _
    rw [List.append_assoc, List.append_assoc, ← List.append_assoc (order.word64 rows)]
    refine (Outcome.consumes_decode order .done).bind
      ((consumes_dimensions order rows cols).bind ?_)
    dsimp only
    rw [← count, if_neg (by omega)]
    exact (consumes_arrayLength memory).bind
      ((consumes_words order memory).map (consumes_pure _))

end ViewReply

namespace ListReply

/-- There is memory to receive the list. -/
def Fits : ListReply → Prop
  | .found ids => Memory.refusal? (ids.length * 4) 1 = none
  | .failed => True

theorem consumes_count (order : ByteOrder) (n : UInt64) :
    Consumes (fields order 8 Frame.word64) (order.word64 n) (.ok n) :=
  consumes_fixed (order.length_word64 n) (by decide) (Frame.takes_word64 order n)

theorem consumes_decode (order : ByteOrder) {reply : ListReply} (fits : reply.Fits) :
    Consumes (ListReply.decode order) (reply.encode order) (.ok reply) := by
  cases reply with
  | failed => exact (Outcome.consumes_decode order .failed).map (consumes_pure _)
  | found ids =>
    have memory : Memory.refusal? (ids.length * 4) 1 = none := fits
    have bound := Memory.lt_size_of_refusal? memory
    have count : (UInt64.ofNat ids.length).toNat = ids.length :=
      UInt64.toNat_ofNat_of_lt' (by omega)
    show Consumes _ (_ ++ _ ++ _) _
    rw [List.append_assoc]
    refine (Outcome.consumes_decode order .done).bind
      ((consumes_count order (UInt64.ofNat ids.length)).bind ?_)
    rw [count]
    exact (consumes_arrayLength fits).bind ((consumes_words order fits).map (consumes_pure _))

end ListReply

end BoxOffice
