import BoxOffice.Proofs.Job.Simulation
import BoxOffice.Proofs.Script.Grammar
import BoxOffice.Proofs.Script.Lines
import BoxOffice.Proofs.Seating.Numbers
import BoxOffice.Proofs.Stream.Sink
/-!
# What a job does

A job at the desk of a store carries out the commands of its script line by line, up to the first
line that says `QUIT` or is not UTF-8 (`Command.executed`).  `Job.Does` says what carrying commands
out comes to: the store is left as by the calls that the commands make, the output has the grids and
lists that were answered, and the summary counts calls, refusals and lines that are no command.  One
command does this (`Job.does_step`), and so do all of them, one after the other (`Job.run_does`).

Main statement: `Job.run_script`.
-/

namespace BoxOffice

open Text

/-! ## Calls and their answers -/

/-- The call that a command makes, if any. -/
def Command.call? : Command → Option Store.Call
  | .create id rows cols => some (.create id rows cols)
  | .reserve id seats => some (.reserve id seats)
  | .view id => some (.view id)
  | .list => some .list
  | _ => none

theorem Command.request?_of_call?_none {c : Command} (h : c.call? = none) : c.request? = none := by
  cases c with
  | create | reserve | view | list => cases h
  | wait | quit | help | invalid | empty | finish => rfl

theorem Command.isLast_of_call? {c : Command} {call : Store.Call} (h : c.call? = some call) :
    c.isLast = false := by
  cases c with
  | create | reserve | view | list => rfl
  | wait | quit | help | invalid | empty | finish => cases h

/-- The calls that commands make, in order. -/
def Command.calls (commands : List Command) : List Store.Call := commands.filterMap call?

theorem Command.calls_append (commands more : List Command) :
    calls (commands ++ more) = calls commands ++ calls more := List.filterMap_append

namespace Store

/-- The call may change the store. -/
def Call.changes : Call → Bool
  | .create .. | .reserve .. => true
  | .view _ | .list | .dump => false

/-- What is printed of an answer: the grid of an event that was seen, or the list of events. -/
def Answer.printed : Answer → List UInt8
  | .viewed (.ok shot) => Utf8.encode (Listing.gridText shot.rows shot.cols shot.markers)
  | .listed ids => Utf8.encode (Listing.listText ids)
  | _ => []

variable [Platform]

/-- Calls that change nothing can be left out. -/
theorem performAll_changes (s : Store) (calls : List Call) :
    (s.performAll (calls.filter (·.changes))).2 = (s.performAll calls).2 := by
  induction calls generalizing s with
  | nil => rfl
  | cons c calls ih =>
    cases c with
    | create | reserve => exact ih _
    | view | list | dump => exact ih s

end Store

/-! ## Executed lines -/

namespace Command

/-- A job goes on behind the line. -/
def isPassed (maxSeats : UInt64) (line : List UInt8) : Bool :=
  (ofBytes? maxSeats line).any (· ≠ .quit)

/-- What the lines say before the first that says `QUIT` or is not UTF-8. -/
def executed (maxSeats : UInt64) (lines : List (List UInt8)) : List Command :=
  (lines.takeWhile (isPassed maxSeats)).filterMap (ofBytes? maxSeats)

/-- It is a line that is not UTF-8 that ends the executed lines. -/
def breaksOff (maxSeats : UInt64) (lines : List (List UInt8)) : Bool :=
  (lines.find? (!isPassed maxSeats ·)).any fun line => (ofBytes? maxSeats line).isNone

variable {maxSeats : UInt64} {line : List UInt8} {lines : List (List UInt8)} {c : Command}

theorem isPassed_of_none (read : ofBytes? maxSeats line = none) :
    isPassed maxSeats line = false := by
  unfold isPassed
  rw [read]
  rfl

theorem isPassed_of_some (read : ofBytes? maxSeats line = some c) :
    isPassed maxSeats line = decide (c ≠ .quit) := by
  unfold isPassed
  rw [read]
  rfl

/-- A job goes on behind a line that it passes. -/
theorem isLast_of_isPassed (read : ofBytes? maxSeats line = some c)
    (passed : isPassed maxSeats line = true) : c.isLast = false := by
  rw [isPassed_of_some read, decide_eq_true_iff] at passed
  obtain ⟨text, -, rfl⟩ := Option.map_eq_some_iff.1 read
  have unfinished := ofLine_ne_finish maxSeats text
  cases said : ofLine maxSeats text with
  | quit => exact absurd said passed
  | finish => exact absurd said unfinished
  | _ => rfl

theorem executed_stop (stops : isPassed maxSeats line = false) :
    executed maxSeats (line :: lines) = [] := by
  unfold executed
  rw [List.takeWhile_cons_of_neg (ne_true_of_eq_false stops)]
  rfl

theorem breaksOff_stop (stops : isPassed maxSeats line = false) :
    breaksOff maxSeats (line :: lines) = (ofBytes? maxSeats line).isNone := by
  have found : (line :: lines).find? (!isPassed maxSeats ·) = some line := by
    refine List.find?_cons_of_pos ?_
    rw [stops, Bool.not_false]
  unfold breaksOff
  rw [found, Option.any_some]

theorem executed_pass (read : ofBytes? maxSeats line = some c)
    (passed : isPassed maxSeats line = true) :
    executed maxSeats (line :: lines) = c :: executed maxSeats lines := by
  unfold executed
  rw [List.takeWhile_cons_of_pos passed, List.filterMap_cons_some read]

theorem breaksOff_pass (passed : isPassed maxSeats line = true) :
    breaksOff maxSeats (line :: lines) = breaksOff maxSeats lines := by
  have later : (line :: lines).find? (!isPassed maxSeats ·) = lines.find? (!isPassed maxSeats ·) := by
    refine List.find?_cons_of_neg ?_
    rw [passed, Bool.not_true]
    nofun
  unfold breaksOff
  rw [later]

end Command

namespace Job

section

variable [Platform]

/-- What carrying commands out comes to. -/
structure Does (j : Job Store) (commands : List Command) (k : Job Store) : Prop where
  office : k.office = (j.office.performAll (Command.calls commands)).2
  written : k.record.out.written = j.record.out.written ++
    (j.office.performAll (Command.calls commands)).1.flatMap (·.printed)
  requests : k.record.summary.requests =
    j.record.summary.requests + (Command.calls commands).length
  failures : k.record.summary.failures = j.record.summary.failures +
    (j.office.performAll (Command.calls commands)).1.countP (·.fault?.isSome)
  invalid : k.record.summary.invalid = j.record.summary.invalid + commands.count .invalid
  accepting : k.record.out.Accepting

variable {j k l : Job Store} {commands more : List Command} {c : Command}

theorem Does.append (first : j.Does commands k) (second : k.Does more l) :
    j.Does (commands ++ more) l := by
  have done : j.office.performAll (Command.calls (commands ++ more)) =
      ((j.office.performAll (Command.calls commands)).1 ++
        (k.office.performAll (Command.calls more)).1,
        (k.office.performAll (Command.calls more)).2) := by
    rw [Command.calls_append, Store.performAll_append, first.office]
  constructor
  · rw [done]
    exact second.office
  · rw [done, List.flatMap_append, ← List.append_assoc, ← first.written]
    exact second.written
  · rw [Command.calls_append, List.length_append, ← Nat.add_assoc, ← first.requests]
    exact second.requests
  · rw [done, List.countP_append, ← Nat.add_assoc, ← first.failures]
    exact second.failures
  · rw [List.count_append, ← Nat.add_assoc, ← first.invalid]
    exact second.invalid
  · exact second.accepting

/-! ## One command -/

/-- A command that makes a call does what the call does. -/
theorem does_call {call : Store.Call} {answer : Store.Answer} (hc : c.call? = some call)
    (performed : j.office.perform call = (answer, k.office))
    (written : k.record.out.written = j.record.out.written ++ answer.printed)
    (summary : k.record.summary = { j.record.summary with
      requests := j.record.summary.requests + 1
      failures := j.record.summary.failures + if answer.fault?.isSome then 1 else 0 })
    (accepting : k.record.out.Accepting) : j.Does [c] k := by
  have calls : Command.calls [c] = [call] := List.filterMap_cons_some hc
  have answers : j.office.performAll [call] = ([answer], k.office) := by
    unfold Store.performAll
    rw [performed]
    rfl
  have known : (c == .invalid) = false := by
    rw [beq_eq_false_iff_ne]
    rintro rfl
    cases hc
  constructor
  · rw [calls, answers]
  · rw [calls, answers, written, List.flatMap_singleton]
  · rw [calls, summary, List.length_singleton]
  · rw [calls, answers, summary, List.countP_singleton]
  · rw [summary, List.count_singleton, known]
    rfl
  · exact accepting

/-- A command that makes no call is counted if it cannot be read, and does nothing else. -/
theorem does_heed (hc : c.call? = none) (accepting : j.record.out.Accepting)
    (reader : ScriptReader) :
    j.Does [c] { j with reader, record := j.record.heed reader.lineNumber c } := by
  have calls : Command.calls [c] = [] := List.filterMap_cons_none hc
  have kept : (j.record.heed reader.lineNumber c).out = j.record.out ∧
      (j.record.heed reader.lineNumber c).summary = { j.record.summary with
        invalid := j.record.summary.invalid + [c].count .invalid } := by
    cases c with
    | create | reserve | view | list => cases hc
    | wait delay thread =>
      dsimp only [JobRecord.heed]
      split <;> exact ⟨rfl, rfl⟩
    | quit | help | invalid | empty | finish => exact ⟨rfl, rfl⟩
  obtain ⟨out, summary⟩ := kept
  constructor
  · rw [calls]
    rfl
  · rw [calls, out]
    exact (List.append_nil _).symm
  · rw [calls, summary]
    rfl
  · rw [calls, summary]
    rfl
  · rw [summary]
  · rw [out]
    exact accepting

section Answered

variable {call : Store.Call} {answer : Store.Answer} {t : Store} (hc : c.call? = some call)
  (performed : j.office.perform call = (answer, t)) (accepting : j.record.out.Accepting)

include hc performed accepting

theorem does_refused {fault : Fault} (refused : answer.fault? = some fault) (what : JobFailure) :
    j.Does [c] { j with office := t, record := j.record.asked.failed what } := by
  have unprinted : answer.printed = [] := by
    cases answer with
    | created | reserved | dumped => rfl
    | listed => cases refused
    | viewed result =>
      rw [Store.Answer.fault?_viewed.1 refused]
      rfl
  refine does_call hc performed ?_ ?_ accepting
  · rw [unprinted, List.append_nil]
    rfl
  · rw [refused]
    rfl

theorem does_granted (granted : answer.fault? = none) (unprinted : answer.printed = []) :
    j.Does [c] { j with office := t, record := j.record.asked } := by
  refine does_call hc performed ?_ ?_ accepting
  · rw [unprinted, List.append_nil]
    rfl
  · rw [granted]
    rfl

theorem does_printed (granted : answer.fault? = none) {text : String}
    (printed : answer.printed = Utf8.encode text) :
    ∃ record, JobRecord.write text j.record.asked = (.ok (), record) ∧
      j.Does [c] { j with office := t, record } := by
  obtain ⟨out, took, accepting', written⟩ := accepting.writeAll (Utf8.encode text)
  refine ⟨{ j.record.asked with out }, ?_, does_call hc performed ?_ ?_ accepting'⟩
  · have took' : j.record.asked.out.writeAll (Utf8.encode text) = (.ok (), out) := took
    unfold JobRecord.write
    rw [took']
  · rw [printed]
    exact written
  · rw [granted]
    rfl

end Answered

/-- The desk carries a command that makes a call out. -/
theorem does_ask {call : Store.Call} (hc : c.call? = some call)
    (accepting : j.record.out.Accepting) :
    ∃ m k, c.request? = some m ∧ j.ask Store.desk m = (.ok (), k) ∧ j.Does [c] k := by
  cases c with
  | create id rows cols =>
    rcases made : j.office.create id rows cols with ⟨result, t⟩
    have performed : j.office.perform (.create id rows cols) = (.created result, t) := by
      dsimp only [Store.perform]
      rw [made]
    cases result with
    | error fault =>
      refine ⟨_, _, rfl, ?_, does_refused rfl performed accepting rfl .create⟩
      dsimp only [ask, Store.desk]
      rw [made]
      rfl
    | ok =>
      refine ⟨_, _, rfl, ?_, does_granted rfl performed accepting rfl rfl⟩
      dsimp only [ask, Store.desk]
      rw [made]
      rfl
  | reserve id seats =>
    rcases made : j.office.reserve id seats with ⟨result, t⟩
    have performed : j.office.perform (.reserve id seats) = (.reserved result, t) := by
      dsimp only [Store.perform]
      rw [made]
    cases result with
    | error fault =>
      refine ⟨_, _, rfl, ?_, does_refused rfl performed accepting rfl .reserve⟩
      dsimp only [ask, Store.desk]
      rw [made]
      rfl
    | ok number =>
      refine ⟨_, _, rfl, ?_, does_granted rfl performed accepting rfl rfl⟩
      dsimp only [ask, Store.desk]
      rw [made]
      rfl
  | view id =>
    have performed : j.office.perform (.view id) = (.viewed (j.office.snapshot id), j.office) := rfl
    cases seen : j.office.snapshot id with
    | error fault =>
      rw [seen] at performed
      refine ⟨_, _, rfl, ?_, does_refused rfl performed accepting rfl .view⟩
      dsimp only [ask, Store.desk]
      rw [seen]
      rfl
    | ok shot =>
      rw [seen] at performed
      obtain ⟨record, wrote, does⟩ :=
        does_printed (c := .view id) rfl performed accepting rfl rfl
      refine ⟨_, _, rfl, ?_, does⟩
      dsimp only [ask, Store.desk]
      rw [seen]
      dsimp only [ViewReply.ofResult, JobRecord.hear]
      rw [wrote]
  | list =>
    have performed : j.office.perform .list = (.listed j.office.list, j.office) := rfl
    obtain ⟨record, wrote, does⟩ := does_printed (c := .list) rfl performed accepting rfl rfl
    refine ⟨_, _, rfl, ?_, does⟩
    dsimp only [ask, Store.desk, JobRecord.hear]
    rw [wrote]
  | wait | quit | help | invalid | empty | finish => cases hc

/-- Carrying commands out does not depend on where the reader stands. -/
theorem Does.of_reader {reader : ScriptReader} (h : Does { j with reader } commands k) :
    j.Does commands k :=
  ⟨h.office, h.written, h.requests, h.failures, h.invalid, h.accepting⟩

/-- A step carries the next command out, whether or not it is the last. -/
theorem does_step {reader : ScriptReader} (next : j.reader.next = (.ok c, reader))
    (accepting : j.record.out.Accepting) :
    ∃ k, j.step Store.desk = (.ok (!c.isLast), k) ∧ k.reader = reader ∧ j.Does [c] k := by
  unfold step
  rw [next]
  dsimp only
  cases hc : c.call? with
  | none =>
    rw [Command.request?_of_call?_none hc]
    exact ⟨_, rfl, rfl, does_heed hc accepting reader⟩
  | some call =>
    obtain ⟨m, k, requested, asked, does⟩ := does_ask (j := { j with reader }) hc accepting
    have kept := reader_ask Store.desk m { j with reader }
    rw [asked] at kept
    rw [requested, Command.isLast_of_call? hc]
    dsimp only
    rw [asked]
    exact ⟨k, rfl, kept, does.of_reader⟩

/-! ## The whole script -/

/-- The last command does nothing; behind it the output is flushed. -/
theorem run_of_last {reader : ScriptReader} (next : j.reader.next = (.ok c, reader))
    (last : c.isLast = true) (accepting : j.record.out.Accepting) :
    ∃ k, j.run Store.desk = (.ok k.record.summary, k) ∧ j.Does [] k := by
  obtain ⟨k, stepped, -, does⟩ := does_step next accepting
  have idle : j.Does [] k := by
    cases c with
    | quit | finish =>
      exact ⟨does.office, does.written, does.requests, does.failures, does.invalid, does.accepting⟩
    | create | reserve | view | list | wait | help | invalid | empty => cases last
  obtain ⟨out, flushed, accepting', written⟩ := idle.accepting.finish
  refine ⟨{ k with record := { k.record with out } }, ?_, ?_⟩
  · rw [run_eq, stepped, last]
    simp only [Bool.not_true]
    rw [flushed]
    rfl
  · exact ⟨idle.office, written.trans idle.written, idle.requests, idle.failures, idle.invalid,
      accepting'⟩

/-- A run carries the lines out up to the first that says `QUIT` or is not UTF-8. -/
theorem run_does (accepting : j.record.out.Accepting) {lines : List (List UInt8)}
    (h : linesOf j.reader.rest = lines) :
    ∃ k, j.Does (Command.executed j.reader.maxSeats lines) k ∧
      j.run Store.desk =
        (if Command.breaksOff j.reader.maxSeats lines then .error (.io .notText)
          else .ok k.record.summary, k) := by
  -- on the lines that are left, since each step leaves another job to go on with
  induction lines generalizing j with
  | nil =>
    obtain ⟨k, ran, does⟩ := run_of_last (ScriptReader.next_of_lines_nil h) rfl accepting
    exact ⟨k, does, ran⟩
  | cons line lines ih =>
    obtain ⟨rest, others, next⟩ := ScriptReader.next_of_lines_cons h
    cases passed : Command.isPassed j.reader.maxSeats line with
    | false =>
      rw [Command.executed_stop passed, Command.breaksOff_stop passed]
      cases read : Command.ofBytes? j.reader.maxSeats line with
      | none =>
        rw [read] at next
        refine ⟨{ j with reader := { j.reader with rest } }, ⟨rfl, ?_, rfl, rfl, rfl, accepting⟩, ?_⟩
        · exact (List.append_nil _).symm
        · rw [run_eq]
          unfold step
          rw [next]
          rfl
      | some c =>
        rw [Command.isPassed_of_some read, decide_eq_false_iff_not, not_not] at passed
        subst passed
        rw [read] at next
        obtain ⟨k, ran, does⟩ := run_of_last next rfl accepting
        exact ⟨k, does, ran⟩
    | true =>
      cases read : Command.ofBytes? j.reader.maxSeats line with
      | none =>
        rw [Command.isPassed_of_none read] at passed
        cases passed
      | some c =>
        rw [read] at next
        obtain ⟨k, stepped, moved, does⟩ := does_step next accepting
        have following : linesOf k.reader.rest = lines := by
          rw [moved]
          exact others
        obtain ⟨l, later, ran⟩ := ih does.accepting following
        rw [moved] at later ran
        refine ⟨l, ?_, ?_⟩
        · rw [Command.executed_pass read passed]
          exact does.append later
        · rw [Command.breaksOff_pass passed, run_eq, stepped,
            Command.isLast_of_isPassed read passed]
          exact ran

/-- **A job does what its script says, line by line.**  The lines before the first that says `QUIT`
or is not UTF-8 are carried out in order: the store is left as by the creations and reservations
among them, and the output has the grids and lists that were answered, each at its turn.  The summary
counts the calls, those that were refused and the lines that are no command.  A line that is not UTF-8
ends the job with a fault, and what the lines before it did stands. -/
theorem run_script (maxSeats : UInt64) (bytes : List UInt8) (s : Store) {out : Sink}
    (accepting : out.Accepting) :
    let job : Job Store := { office := s, reader := { rest := bytes, maxSeats }, record := { out } }
    let commands := Command.executed maxSeats (linesOf bytes)
    let answers := (s.performAll (Command.calls commands)).1
    (job.run Store.desk).2.office =
        (s.performAll ((Command.calls commands).filter (·.changes))).2 ∧
      (job.run Store.desk).2.record.out.written = out.written ++ answers.flatMap (·.printed) ∧
      (job.run Store.desk).1 =
        if Command.breaksOff maxSeats (linesOf bytes) then .error (.io .notText)
        else .ok {
          requests := (Command.calls commands).length
          failures := answers.countP (·.fault?.isSome)
          invalid := commands.count .invalid } := by
  intro job commands answers
  obtain ⟨k, does, ran⟩ := run_does (j := job) accepting rfl
  have summary : k.record.summary = {
      requests := (Command.calls commands).length
      failures := answers.countP (·.fault?.isSome)
      invalid := commands.count .invalid } := by
    have requests := does.requests.trans (Nat.zero_add _)
    have failures := does.failures.trans (Nat.zero_add _)
    have invalid := does.invalid.trans (Nat.zero_add _)
    rw [← requests, ← failures, ← invalid]
  rw [ran, Store.performAll_changes]
  refine ⟨does.office, does.written, ?_⟩
  rw [← summary]

end

attribute [local instance] Platform.x86_64 in
theorem run_script_quit :
    let script :=
      Utf8.encode "# one event\nCREATE 1 1 2\nRESERVE 1 [(1,2)]\nSHOW 1\nSHOW 2\nSIT\nQUIT\nLIST\n"
    let job : Job Store := { office := .empty 4 0, reader := { rest := script, maxSeats := 2 } }
    ({} : Sink).Accepting ∧
      (job.run Store.desk).2.office =
        ((Store.empty 4 0).performAll [.create 1 1 2, .reserve 1 [⟨1, 2⟩]]).2 ∧
      (job.run Store.desk).2.record.out.written = Utf8.encode "0 1\n" ∧
      (job.run Store.desk).1 = .ok { requests := 4, failures := 1, invalid := 1 } := by
  intro script job
  obtain ⟨office, written, result⟩ := run_script 2 script (.empty 4 0) Sink.accepting_nil
  have commands : Command.executed 2 (linesOf script) =
      [.empty, .create 1 1 2, .reserve 1 [⟨1, 2⟩], .view 1, .view 2, .invalid] := by
    decide +kernel
  have going : Command.breaksOff 2 (linesOf script) = false := by decide +kernel
  rw [commands] at office written result
  rw [going] at result
  refine ⟨Sink.accepting_nil, office, written.trans ?_, result⟩
  decide +kernel

end Job

end BoxOffice
