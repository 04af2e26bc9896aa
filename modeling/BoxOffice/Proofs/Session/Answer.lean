import BoxOffice.Job.Desk
import BoxOffice.Proofs.Seating.Store
import BoxOffice.Proofs.Wire.Reply
import BoxOffice.Session.Answer
/-!
# Replies that are understood

A session and the store at hand do the same with a request, and what the session replies is received
as what the store at hand would have answered (`answer_eq_desk`).  There is always memory for the
reply: for a grid because there was when the event was put on sale, for a list because the list of the
events takes up more.

`Reply.IsFor` says that a client which has sent a certain opcode understands the reply.
-/

namespace BoxOffice

open Source

/-! ## What a client learns -/

def ViewReply.outcome : ViewReply → Outcome
  | .found .. => .done
  | .failed => .failed

def ListReply.outcome : ListReply → Outcome
  | .found _ => .done
  | .failed => .failed

theorem ViewReply.outcome_ofResult (result : Except Fault Snapshot) :
    (ViewReply.ofResult result).outcome = .ofResult result := by
  cases result <;> rfl

/-- Whether the request was carried out, going by what the client learns. -/
def Request.outcome : (m : Request) → m.Result → Outcome
  | .create .., outcome | .reserve .., outcome => outcome
  | .view _, reply => reply.outcome
  | .list, reply => reply.outcome
  | .quit, () => .done

variable [Platform]

/-- A client that has sent this opcode receives the reply whole, with the outcome it carries. -/
def Reply.IsFor (order : ByteOrder) (r : Reply) : Opcode → Prop
  | .create | .reserve => Consumes (Outcome.decode order) r.bytes (.ok r.outcome)
  | .view => ∃ reply, Consumes (ViewReply.decode order) r.bytes (.ok reply) ∧
      reply.outcome = r.outcome
  | .list => ∃ reply, Consumes (ListReply.decode order) r.bytes (.ok reply) ∧
      reply.outcome = r.outcome
  | .setup | .quit => False

theorem Reply.isFor_of_result {order : ByteOrder} {r : Reply} {m : Request} {result : m.Result}
    (going : m ≠ .quit) (received : Consumes (m.decodeResult order) r.bytes (.ok result))
    (outcome : r.outcome = m.outcome result) : r.IsFor order m.opcode := by
  cases m with
  | create | reserve =>
    show Consumes _ _ (.ok r.outcome)
    rw [outcome]
    exact received
  | view | list => exact ⟨result, received, outcome.symm⟩
  | quit => exact absurd rfl going

/-- The reply to a malformed request is one that its client understands. -/
theorem isFor_refusal {order : ByteOrder} {op : Opcode} {r : Reply}
    (h : refusal? order op = some r) : r.IsFor order op := by
  cases op with
  | create | reserve =>
    cases h
    exact Outcome.consumes_decode order .failed
  | view =>
    cases h
    exact ⟨.failed, ViewReply.consumes_decode order (show ViewReply.failed.Fits from trivial), rfl⟩
  | list =>
    cases h
    exact ⟨.failed, ListReply.consumes_decode order (show ListReply.failed.Fits from trivial), rfl⟩
  | setup | quit => cases h

/-! ## There is memory for the replies -/

namespace Store

theorem Sound.fits_view {s : Store} (h : s.Sound) (id : UInt32) :
    (ViewReply.ofResult (s.snapshot id)).Fits := by
  cases found : s.find? id with
  | none =>
    have absent : s.snapshot id = .error (.eventNotFound id) := by
      unfold Store.snapshot lookup
      rw [found]
    rw [absent]
    trivial
  | some e =>
    have sound := h.events e (mem_of_find? found).1
    have count : e.shot.markers.length = e.rows.toNat * e.cols.toNat := sound.size
    have memory := sound.admissible.memory
    rw [h.snapshot found]
    refine ⟨count, Memory.refusal?_of_le memory ?_⟩
    rw [count]
    exact Nat.le_of_eq (Nat.mul_one _)

theorem Sound.fits_list {s : Store} (h : s.Sound) : (ListReply.found s.list).Fits := by
  have bound := length_list_le h.nodup
  have possible : UInt32.size * 4 ≤ Memory.largestBlock := by decide
  have length : s.list.length = s.events.length := List.length_map _
  show Memory.refusal? _ _ = none
  rw [Memory.refusal?_eq_none_iff]
  exact ⟨by omega, Platform.gives_of_le (by omega) h.block⟩

end Store

/-! ## The session and the store at hand -/

/-- The session leaves the store as the store at hand would, and its reply is received as the answer
that the store at hand gives. -/
theorem answer_eq_desk {store : Store} (hs : store.Sound) (session : Int32) (order : ByteOrder)
    {m : Request} (going : m ≠ .quit) :
    ∃ result reply, Store.desk m store = (.ok result, (answer session order store m).store) ∧
      (answer session order store m).reply = some reply ∧
      Consumes (m.decodeResult order) reply.bytes (.ok result) ∧
      reply.outcome = m.outcome result := by
  cases m with
  | create | reserve => exact ⟨_, _, rfl, rfl, Outcome.consumes_decode order _, rfl⟩
  | view id =>
    exact ⟨_, _, rfl, rfl, ViewReply.consumes_decode order (hs.fits_view id),
      (ViewReply.outcome_ofResult _).symm⟩
  | list => exact ⟨_, _, rfl, rfl, ListReply.consumes_decode order hs.fits_list, rfl⟩
  | quit => exact absurd rfl going

theorem Store.Reachable.answer {store : Store} (h : store.Reachable) (session : Int32)
    (order : ByteOrder) (m : Request) : (answer session order store m).store.Reachable := by
  cases m with
  | create id rows cols => exact h.perform (.create id rows cols)
  | reserve id seats => exact h.perform (.reserve id seats)
  | view | list | quit => exact h

end BoxOffice
