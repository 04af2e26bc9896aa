import BoxOffice.Proofs.Seating.Apart
/-!
# Putting an event on sale

An event is put on sale, or that is declined for the first thing that is wrong with it
(`Store.Declines`), and then nothing has happened.  A new event stands behind all others, which are
as they were, with every seat free (`Store.Opens`).

Main statement: `Store.create_outcome`.
-/

namespace BoxOffice

namespace Event

variable [Platform]

variable {id : UInt32} {rows cols cap : UInt64} {fault : Fault}

end Event

namespace Store

section

variable [Platform]

variable {s t : Store} {id : UInt32} {rows cols : UInt64}

end

attribute [local instance] Platform.x86_64 in
/-- All that can be wrong, with more of it wrong from one to the next. -/
example :
    let s := (Store.empty 4 0).create 7 1 2 |>.2
    (s.create 7 0 0).1 = .error (.eventExists 7) ∧
      (s.create 8 0 9).1 = .error (.invalidDimensions 0 9) ∧
      (s.create 8 5 0xFFFFFFFFFFFFFFFF).1 =
        .error (.allocation (.gridOverflow 5 0xFFFFFFFFFFFFFFFF)) ∧
      (s.create 8 5 1).1 = .error (.allocation (.gridOverCap 5 1 4)) := by
  decide

/-- Where the list has room for one event only, a second one is declined. -/
example :
    letI : Platform :=
      { Platform.x86_64 with
        grows n := n == 0
        gives_of_grows few _ := Platform.x86_64.gives_of_grows few rfl }
    let s := (Store.empty 4 0).create 7 1 2 |>.2
    s.list = [7] ∧ s.create 8 1 1 = (.error (.allocation (.eventList .refused)), s) := by
  decide

end Store

end BoxOffice
