import BoxOffice.Proofs.Seating.Apart
import Mathlib.Data.List.Induction
/-!
# Who gets the seats

Several requests for seats of one event are made one after the other, each of which would be granted
if it were the only one.  Then nothing but overlap decides: a request is granted if and only if it
has no seat in common with one that was granted before it (`Store.Reachable.grants_iff`).

* Where no two requests have a seat in common, all of them are granted in any order; the order only
  settles the numbers.
* Where all of them have one seat in common, the first one is granted and no other.

Main statement: `Store.Reachable.contended`.
-/

namespace BoxOffice

open Log

namespace Event.Honours

variable {e : Event} {sold : List Sale}

theorem fits (h : e.Honours sold) : e.fits = true := by
  unfold Event.fits
  rw [h.size]
  exact beq_self_eq_true _

/-- What is free is what was not sold. -/
theorem hasFree_iff (h : e.Honours sold) {seat : Seat} :
    e.HasFree seat ↔ seat.within e.rows e.cols = true ∧ ∀ sale ∈ sold, seat ∉ sale.seats := by
  constructor
  · rintro ⟨within, zero⟩
    refine ⟨within, fun sale hsale hseat => h.number_ne_zero hsale ?_⟩
    exact Option.some.inj ((h.held sale hsale seat hseat).symm.trans zero)
  · rintro ⟨within, unsold⟩
    exact ⟨within, h.free seat within unsold⟩

/-- Seats have one number if and only if they were sold in one sale. -/
theorem same_number_iff (h : e.Honours sold) {sale other : Sale} (hs : sale ∈ sold)
    (ho : other ∈ sold) : sale.number = other.number ↔ sale = other := by
  have once : (sold.map (·.number.toNat)).Nodup := by
    rw [h.numbered]
    exact List.nodup_range'
  constructor
  · intro same
    exact List.inj_on_of_nodup_map once hs ho (congrArg UInt32.toNat same)
  · exact congrArg Sale.number

end Event.Honours

namespace Store

/-! ## Asking one after the other -/

/-- Asks for seats of one event, one request after the other. -/
def asking (id : UInt32) (requests : List (List Seat)) : List Call := requests.map (.reserve id)

section

variable [Platform]

/-- The store when these requests have been made. -/
def asked (s : Store) (id : UInt32) (requests : List (List Seat)) : Store :=
  (s.performAll (asking id requests)).2

/-- Those of the requests that were granted, with their numbers. -/
def granted (s : Store) (id : UInt32) (requests : List (List Seat)) : List Sale :=
  sales id (s.logOf (asking id requests))

/-- The request, made when the others have been made, is granted. -/
def Grants (s : Store) (id : UInt32) (others : List (List Seat)) (seats : List Seat) : Prop :=
  ∃ n t, (s.asked id others).reserve id seats = (.ok n, t)

/-- The marker that is shown on a seat. -/
def marker? (s : Store) (id : UInt32) (seat : Seat) : Option UInt32 :=
  match s.snapshot id with
  | .ok shot => shot.seat seat
  | .error _ => none

/-- The seat is shown as reserved. -/
def Taken (s : Store) (id : UInt32) (seat : Seat) : Prop :=
  ∃ n, s.marker? id seat = some n ∧ n ≠ 0

variable {s : Store} {id : UInt32}

theorem logOf_append (s : Store) (calls more : List Call) :
    s.logOf (calls ++ more) = s.logOf calls ++ (s.performAll calls).2.logOf more := by
  induction calls generalizing s with
  | nil => rfl
  | cons c calls ih =>
    show (c, (s.perform c).1) :: (s.perform c).2.logOf (calls ++ more) = _
    rw [ih]
    rfl

theorem granted_concat_of_ok {before : List (List Seat)} {seats : List Seat} {n : UInt32}
    {t : Store} (h : (s.asked id before).reserve id seats = (.ok n, t)) :
    s.granted id (before ++ [seats]) = s.granted id before ++ [⟨n, seats⟩] := by
  unfold granted asking
  rw [List.map_append, logOf_append, sales_append]
  congr 1
  show sales id [(.reserve id seats, .reserved ((s.asked id before).reserve id seats).1)] = _
  rw [h]
  simp [sales]

theorem granted_concat_of_not {before : List (List Seat)} {seats : List Seat}
    (h : ¬ s.Grants id before seats) :
    s.granted id (before ++ [seats]) = s.granted id before := by
  unfold granted asking
  rw [List.map_append, logOf_append, sales_append]
  show _ ++ sales id [(.reserve id seats, .reserved ((s.asked id before).reserve id seats).1)] = _
  rcases refused : (s.asked id before).reserve id seats with ⟨fault | n, t⟩
  · exact List.append_nil _
  · exact absurd ⟨n, t, refused⟩ h

theorem length_granted_le (s : Store) (id : UInt32) (requests : List (List Seat)) :
    (s.granted id requests).length ≤ requests.length := by
  induction requests using List.reverseRecOn with
  | nil => exact Nat.le_refl 0
  | append_singleton before seats ih =>
    rw [List.length_append, List.length_singleton]
    by_cases grants : s.Grants id before seats
    · obtain ⟨n, t, h⟩ := grants
      rw [granted_concat_of_ok h, List.length_append, List.length_singleton]
      omega
    · rw [granted_concat_of_not grants]
      omega

/-- Whatever is asked for, the event stays where it is and has the grid that it had. -/
theorem find?_asked {e : Event} (found : s.find? id = some e) (requests : List (List Seat)) :
    ∃ e', (s.asked id requests).find? id = some e' ∧ e'.rows = e.rows ∧ e'.cols = e.cols := by
  induction requests generalizing s e with
  | nil => exact ⟨e, found, rfl, rfl⟩
  | cons seats requests ih =>
    show ∃ e', ((s.reserve id seats).2.asked id requests).find? id = some e' ∧ _
    rcases taken : s.reserve id seats with ⟨fault | n, t⟩
    · have same : t = s := by
        unfold Store.reserve at taken
        rw [lookup_eq_ok_iff.2 found] at taken
        dsimp only at taken
        split at taken <;> cases taken
        rfl
      rw [same]
      exact ih found
    · obtain ⟨d, e', found', taken, rfl⟩ := reserve_eq_ok_iff.1 taken
      obtain rfl : e = d := Option.some.inj (found.symm.trans found')
      have same : e'.id = id := (Event.id_of_reserve taken).trans (mem_of_find? found).2
      obtain ⟨-, -, -, -, -, rfl⟩ := Event.reserve_eq_ok_iff.1 taken
      obtain ⟨e'', later, rows, cols⟩ := ih (find?_replace_self found same)
      exact ⟨e'', later, rows, cols⟩

/-- The event has been sold as its log tells, and then as the requests were granted. -/
theorem Reachable.exists_past (hs : s.Reachable) {e : Event} (found : s.find? id = some e) :
    ∃ past, e.Honours past ∧ ∀ requests, ∃ e', (s.asked id requests).find? id = some e' ∧
      e'.rows = e.rows ∧ e'.cols = e.cols ∧ e'.Honours (past ++ s.granted id requests) := by
  obtain ⟨log, agrees⟩ := hs.agrees
  obtain ⟨he, rfl⟩ := mem_of_find? found
  refine ⟨sales e.id log, agrees.honours e he, fun requests => ?_⟩
  obtain ⟨e', found', rows, cols⟩ := find?_asked found requests
  obtain ⟨he', same⟩ := mem_of_find? found'
  have honours := (agrees_performAll hs.sound agrees (asking e.id requests)).honours e' he'
  rw [same, sales_append] at honours
  exact ⟨e', found', rows, cols, honours⟩

/-! ## Only overlap decides -/

/-- Each of the requests would be granted on the event as it is, and there is a number for each. -/
structure Contend (e : Event) (requests : List (List Seat)) : Prop where
  alone : ∀ seats ∈ requests, ∃ n e', e.reserve seats = .ok (n, e')
  numbers : e.reservations.toNat + requests.length < UInt32.size

omit [Platform] in
theorem Contend.perm {e : Event} {requests order : List (List Seat)} (h : Contend e requests)
    (same : order.Perm requests) : Contend e order :=
  ⟨fun seats hseats => h.alone seats (same.mem_iff.1 hseats), same.length_eq ▸ h.numbers⟩

omit [Platform] in
theorem Contend.before {e : Event} {before after : List (List Seat)}
    (h : Contend e (before ++ after)) : Contend e before := by
  refine ⟨fun seats hseats => h.alone seats (List.mem_append_left _ hseats), ?_⟩
  have numbers := h.numbers
  rw [List.length_append] at numbers
  omega

/-- A request is granted if and only if none that was granted before it has one of its seats. -/
theorem Reachable.grants_iff (hs : s.Reachable) {e : Event} (found : s.find? id = some e)
    {before after : List (List Seat)} {seats : List Seat}
    (h : Contend e (before ++ seats :: after)) :
    s.Grants id before seats ↔ ∀ sale ∈ s.granted id before, sale.seats.Disjoint seats := by
  obtain ⟨past, honours, later⟩ := hs.exists_past found
  obtain ⟨e', found', rows, cols, honours'⟩ := later before
  obtain ⟨n, e'', alone⟩ := h.alone seats (List.mem_append_right _ List.mem_cons_self)
  obtain ⟨some_seats, -, free, -⟩ := Event.reserve_eq_ok_iff.1 alone
  -- a seat that was free at first is free still if no request has got it
  have still_free : ∀ seat ∈ seats,
      (e'.HasFree seat ↔ ∀ sale ∈ s.granted id before, seat ∉ sale.seats) := by
    intro seat hseat
    obtain ⟨within, unsold⟩ := honours.hasFree_iff.1 (free seat hseat)
    rw [honours'.hasFree_iff, rows, cols, List.forall_mem_append]
    exact ⟨fun h => h.2.2, fun h => ⟨within, unsold, h⟩⟩
  have number_left : e'.reservations.toNat + 1 < UInt32.size := by
    have count := honours'.count
    have granted := s.length_granted_le id before
    have numbers := h.numbers
    rw [List.length_append, ← honours.count] at count
    rw [List.length_append, List.length_cons] at numbers
    omega
  constructor
  · rintro ⟨n, t, grants⟩ sale hsale seat hsold hseat
    obtain ⟨d, d', found'', taken, -⟩ := reserve_eq_ok_iff.1 grants
    obtain rfl : e' = d := Option.some.inj (found'.symm.trans found'')
    obtain ⟨-, -, free', -⟩ := Event.reserve_eq_ok_iff.1 taken
    exact (still_free seat hseat).1 (free' seat hseat) sale hsale hsold
  · intro apart
    have free' : ∀ seat ∈ seats, e'.HasFree seat := fun seat hseat =>
      (still_free seat hseat).2 fun sale hsale hsold => apart sale hsale hsold hseat
    have taken := Event.reserve_eq_ok_iff.2
      ⟨some_seats, honours'.fits, free', number_left, rfl, rfl⟩
    exact ⟨_, _, reserve_eq_ok_iff.2 ⟨e', _, found', taken, rfl⟩⟩

/-- Requests without a seat in common are all granted. -/
theorem Reachable.granted_of_disjoint (hs : s.Reachable) {e : Event} (found : s.find? id = some e)
    {requests : List (List Seat)} (h : Contend e requests)
    (apart : requests.Pairwise List.Disjoint) :
    (s.granted id requests).map (·.seats) = requests := by
  induction requests using List.reverseRecOn with
  | nil => rfl
  | append_singleton before seats ih =>
    obtain ⟨apart_before, -, apart_last⟩ := List.pairwise_append.1 apart
    have earlier := ih h.before apart_before
    have grants : s.Grants id before seats := by
      rw [hs.grants_iff found h]
      intro sale hsale
      have asked : sale.seats ∈ before := earlier ▸ List.mem_map_of_mem hsale
      exact apart_last sale.seats asked seats List.mem_cons_self
    obtain ⟨n, t, grants⟩ := grants
    rw [granted_concat_of_ok grants, List.map_append, earlier]
    rfl

/-- Of requests that all have one seat in common the first is granted. -/
theorem Reachable.granted_of_common (hs : s.Reachable) {e : Event} (found : s.find? id = some e)
    {requests : List (List Seat)} (h : Contend e requests) {seat : Seat}
    (common : ∀ seats ∈ requests, seat ∈ seats) :
    (s.granted id requests).map (·.seats) = requests.take 1 := by
  induction requests using List.reverseRecOn with
  | nil => rfl
  | append_singleton before seats ih =>
    obtain ⟨common_before, common_last⟩ := List.forall_mem_append.1 common
    have wanted : seat ∈ seats := common_last seats List.mem_cons_self
    have earlier := ih h.before common_before
    cases before with
    | nil =>
      have grants : s.Grants id [] seats := by
        rw [hs.grants_iff found h]
        exact fun _ hsale => absurd hsale List.not_mem_nil
      obtain ⟨n, t, grants⟩ := grants
      rw [granted_concat_of_ok grants]
      rfl
    | cons first before =>
      have refused : ¬ s.Grants id (first :: before) seats := by
        rw [hs.grants_iff found h]
        intro apart
        have asked : first ∈ (s.granted id (first :: before)).map (·.seats) := by
          rw [earlier]
          exact List.mem_cons_self
        obtain ⟨sale, hsale, rfl⟩ := List.mem_map.1 asked
        exact apart sale hsale (common_before sale.seats List.mem_cons_self) wanted
      rw [granted_concat_of_not refused, earlier]
      rfl

/-! ## What is shown in the end -/

theorem Sound.marker? (hs : s.Sound) {e : Event} (found : s.find? id = some e) (seat : Seat) :
    s.marker? id seat = e.shot.seat seat := by
  unfold Store.marker?
  rw [hs.snapshot found]

theorem Sound.taken_iff (hs : s.Sound) {e : Event} (found : s.find? id = some e)
    {sold : List Sale} (honours : e.Honours sold) (seat : Seat) :
    s.Taken id seat ↔ ∃ sale ∈ sold, seat ∈ sale.seats := by
  unfold Taken
  rw [hs.marker? found]
  constructor
  · rintro ⟨n, marked, taken⟩
    by_contra unsold
    have within : seat.within e.rows e.cols = true := by
      by_contra outside
      have hidden : e.shot.seat seat = none := if_neg outside
      cases marked.symm.trans hidden
    rw [Event.seat_shot within, honours.free seat within fun sale hsale hseat =>
      unsold ⟨sale, hsale, hseat⟩] at marked
    exact taken (Option.some.inj marked).symm
  · rintro ⟨sale, hsale, hseat⟩
    have within := (honours.filled sale hsale).2 seat hseat
    rw [Event.seat_shot within]
    exact ⟨sale.number, honours.held sale hsale seat hseat, honours.number_ne_zero hsale⟩

/-- All of the requests were granted, made in this order, and what their seats show but for the
numbers themselves is settled by the requests. -/
structure GrantsAll (s : Store) (id : UInt32) (requests order : List (List Seat)) : Prop where
  granted : (s.granted id order).map (·.seats) = order
  taken : ∀ seat, (s.asked id order).Taken id seat ↔
    s.Taken id seat ∨ ∃ seats ∈ requests, seat ∈ seats
  /-- Two seats show one number if one request named both. -/
  together : ∀ a b, (∃ seats ∈ requests, a ∈ seats) → (∃ seats ∈ requests, b ∈ seats) →
    ((s.asked id order).marker? id a = (s.asked id order).marker? id b ↔
      ∃ seats ∈ requests, a ∈ seats ∧ b ∈ seats)

theorem Reachable.grantsAll (hs : s.Reachable) {e : Event} (found : s.find? id = some e)
    {requests order : List (List Seat)} (h : Contend e requests) (same : order.Perm requests)
    (apart : requests.Pairwise List.Disjoint) : s.GrantsAll id requests order := by
  have granted := hs.granted_of_disjoint found (h.perm same)
    ((same.pairwise_iff fun {_ _} => List.Disjoint.symm).2 apart)
  obtain ⟨past, honours, later⟩ := hs.exists_past found
  obtain ⟨e', found', -, -, honours'⟩ := later order
  have sound' : (s.asked id order).Sound := (reachable_performAll hs _).sound
  have listed : ∀ p : List Seat → Prop,
      (∃ sale ∈ s.granted id order, p sale.seats) ↔ ∃ seats ∈ requests, p seats := by
    intro p
    have named : ∀ seats, seats ∈ requests ↔ ∃ sale ∈ s.granted id order, sale.seats = seats := by
      intro seats
      rw [← same.mem_iff, ← List.mem_map, granted]
    simp only [named]
    constructor
    · rintro ⟨sale, hsale, hp⟩
      exact ⟨sale.seats, ⟨sale, hsale, rfl⟩, hp⟩
    · rintro ⟨-, ⟨sale, hsale, rfl⟩, hp⟩
      exact ⟨sale, hsale, hp⟩
  refine ⟨granted, fun seat => ?_, fun a b ha hb => ?_⟩
  · rw [sound'.taken_iff found' honours', hs.sound.taken_iff found honours, ← listed]
    simp only [List.mem_append, or_and_right, exists_or]
  · obtain ⟨sale, hsale, ha⟩ := (listed fun seats => a ∈ seats).2 ha
    obtain ⟨other, hother, hb⟩ := (listed fun seats => b ∈ seats).2 hb
    have marker : ∀ sale ∈ s.granted id order, ∀ seat ∈ sale.seats,
        (s.asked id order).marker? id seat = some sale.number := by
      intro sale hsale seat hseat
      have hsale := List.mem_append_right past hsale
      rw [sound'.marker? found', Event.seat_shot ((honours'.filled sale hsale).2 seat hseat)]
      exact honours'.held sale hsale seat hseat
    have number := honours'.same_number_iff (List.mem_append_right past hsale)
      (List.mem_append_right past hother)
    rw [marker sale hsale a ha, marker other hother b hb, Option.some_inj, number, ← listed]
    constructor
    · rintro rfl
      exact ⟨sale, hsale, ha, hb⟩
    · rintro ⟨both, hboth, ha', hb'⟩
      -- a seat is in one sale only
      have only : ∀ sale ∈ s.granted id order, ∀ seat ∈ sale.seats, seat ∈ both.seats →
          both = sale := by
        intro sale hsale seat hseat hseat'
        have numbers := (marker both hboth seat hseat').symm.trans (marker sale hsale seat hseat)
        exact (honours'.same_number_iff (List.mem_append_right past hboth)
          (List.mem_append_right past hsale)).1 (Option.some.inj numbers)
      exact (only sale hsale a ha ha').symm.trans (only other hother b hb hb')

/-- In whatever order requests are made that would each be granted alone, a request is granted if and
only if it shares no seat with one that was granted before.  So requests without a seat in common are
all granted in every order, and the order does not matter for which seats are taken in the end, nor
for which of the new ones have one number; and of requests for one seat the first is granted. -/
theorem Reachable.contended (hs : s.Reachable) {e : Event} (found : s.find? id = some e)
    {requests : List (List Seat)} (h : Contend e requests) :
    (∀ order, order.Perm requests → ∀ before seats after, order = before ++ seats :: after →
        (s.Grants id before seats ↔
          ∀ sale ∈ s.granted id before, sale.seats.Disjoint seats)) ∧
      (requests.Pairwise List.Disjoint → ∀ order, order.Perm requests →
        s.GrantsAll id requests order ∧ ∀ other, other.Perm requests →
          (∀ seat, (s.asked id order).Taken id seat ↔ (s.asked id other).Taken id seat) ∧
          ∀ a b, ¬ s.Taken id a ∧ (s.asked id order).Taken id a →
            ¬ s.Taken id b ∧ (s.asked id order).Taken id b →
            ((s.asked id order).marker? id a = (s.asked id order).marker? id b ↔
              (s.asked id other).marker? id a = (s.asked id other).marker? id b)) ∧
      ∀ seat, (∀ seats ∈ requests, seat ∈ seats) → ∀ order, order.Perm requests →
        (s.granted id order).map (·.seats) = order.take 1 := by
  refine ⟨?_, ?_, ?_⟩
  · rintro order same before seats after rfl
    exact hs.grants_iff found (h.perm same)
  · intro apart order same
    have all := hs.grantsAll found h same apart
    refine ⟨all, fun other same' => ?_⟩
    have all' := hs.grantsAll found h same' apart
    have asked_for : ∀ seat, ¬ s.Taken id seat ∧ (s.asked id order).Taken id seat →
        ∃ seats ∈ requests, seat ∈ seats := by
      rintro seat ⟨free, taken⟩
      exact ((all.taken seat).1 taken).resolve_left free
    refine ⟨fun seat => (all.taken seat).trans (all'.taken seat).symm, fun a b new new' => ?_⟩
    have ha := asked_for a new
    have hb := asked_for b new'
    exact (all.together a b ha hb).trans (all'.together a b ha hb).symm
  · intro seat common order same
    exact hs.granted_of_common found (h.perm same) fun seats hseats =>
      common seats (same.mem_iff.1 hseats)

end

attribute [local instance] Platform.x86_64 in
/-- Where one seat of four is sold already, two requests without a common seat are made, the second
one first; and two that share a seat. -/
theorem Reachable.contended_two_requests :
    let s := ((Store.empty 4 0).performAll [.create 7 2 2, .reserve 7 [⟨1, 1⟩]]).2
    s.GrantsAll 7 [[⟨1, 2⟩], [⟨2, 1⟩, ⟨2, 2⟩]] [[⟨2, 1⟩, ⟨2, 2⟩], [⟨1, 2⟩]] ∧
      (s.granted 7 [[⟨1, 2⟩, ⟨2, 1⟩], [⟨2, 1⟩]]).map (·.seats) = [[⟨1, 2⟩, ⟨2, 1⟩]] := by
  intro s
  have reachable : s.Reachable :=
    reachable_performAll (.empty 4 0) [.create 7 2 2, .reserve 7 [⟨1, 1⟩]]
  let e : Event := { id := 7, rows := 2, cols := 2, markers := #[1, 0, 0, 0], reservations := 1 }
  have found : s.find? 7 = some e := by decide
  have alone : ∀ seats ∈ [[(⟨1, 2⟩ : Seat)], [⟨2, 1⟩, ⟨2, 2⟩], [⟨1, 2⟩, ⟨2, 1⟩], [⟨2, 1⟩]],
      ∃ n e', e.reserve seats = .ok (n, e') := by
    intro seats hseats
    simp only [List.mem_cons, List.not_mem_nil, or_false] at hseats
    rcases hseats with rfl | rfl | rfl | rfl <;> exact ⟨_, _, rfl⟩
  have apart : Contend e [[⟨1, 2⟩], [⟨2, 1⟩, ⟨2, 2⟩]] :=
    ⟨fun seats hseats => alone seats (List.mem_append_left _ hseats), by decide⟩
  have sharing : Contend e [[⟨1, 2⟩, ⟨2, 1⟩], [⟨2, 1⟩]] :=
    ⟨fun seats hseats => alone seats (List.mem_append_right [_, _] hseats), by decide⟩
  have disjoint : List.Pairwise List.Disjoint [[(⟨1, 2⟩ : Seat)], [⟨2, 1⟩, ⟨2, 2⟩]] :=
    List.pairwise_pair.2 (List.singleton_disjoint.2 (by decide))
  have granted := (reachable.contended found apart).2.1 disjoint _ (.swap _ _ _)
  have first := (reachable.contended found sharing).2.2 ⟨2, 1⟩ (by decide) _ (.refl _)
  exact ⟨granted.1, first⟩

end Store

end BoxOffice
