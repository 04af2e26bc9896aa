import BoxOffice.Proofs.Script.Lines
import Mathlib.Logic.Function.Iterate
/-!
# A script from its first line to its end

`Lined` says of which lines some bytes consist.  A reader is known by what the lines say that it has
not read yet (`ScriptReader.unread`): each call takes the first of them away (`ScriptReader.next_unread`),
so that the `n`-th call answers what the `n`-th line says (`ScriptReader.next_after`) and the lines
counted by then are those that are text (`ScriptReader.lineNumber_after`).  What a line says does not
depend on a carriage return before its line feed (`map_linesOf_withReturns`).

Main statement: `ScriptReader.after_reads`.
-/

namespace BoxOffice

open Text

/-! ## Lines -/

/-- The bytes consist of these lines: each ends at a line feed, and what stands behind the last line
feed is a line too if there is anything. -/
inductive Lined : List UInt8 → List (List UInt8) → Prop
  | nil : Lined [] []
  | last {line : List UInt8} (ne_nil : line ≠ []) (whole : lineFeed ∉ line) : Lined line [line]
  | cons {line rest : List UInt8} {lines : List (List UInt8)} (whole : lineFeed ∉ line)
      (others : Lined rest lines) : Lined (line ++ lineFeed :: rest) (line :: lines)

/-- The byte that some put before a line feed. -/
def carriageReturn : UInt8 := 0x0D

/-- The bytes with a carriage return before each line feed. -/
def withReturns (bytes : List UInt8) : List UInt8 :=
  bytes.flatMap fun b => if b = lineFeed then [carriageReturn, lineFeed] else [b]

variable {bytes line rest : List UInt8} {lines : List (List UInt8)}

theorem Lined.linesOf_eq (h : Lined bytes lines) : linesOf bytes = lines := by
  induction h with
  | nil => rfl
  | last ne_nil whole => exact linesOf_of_notMem whole ne_nil
  | cons whole _ ih => rw [linesOf_append_cons whole, ih]

/-- Whatever the bytes are, they consist of lines. -/
theorem exists_lined (bytes : List UInt8) : ∃ lines, Lined bytes lines := by
  induction hn : bytes.length using Nat.strongRecOn generalizing bytes with
  | ind n ih =>
    subst hn
    by_cases ended : lineFeed ∈ bytes
    · obtain ⟨line, rest, rfl, whole⟩ := List.eq_append_cons_of_mem ended
      have fewer : rest.length < (line ++ lineFeed :: rest).length := by
        rw [List.length_append, List.length_cons]
        omega
      obtain ⟨lines, others⟩ := ih _ fewer rest rfl
      exact ⟨line :: lines, .cons whole others⟩
    · by_cases nothing : bytes = []
      · subst nothing
        exact ⟨[], .nil⟩
      · exact ⟨[bytes], .last nothing ended⟩

theorem lined_linesOf (bytes : List UInt8) : Lined bytes (linesOf bytes) := by
  obtain ⟨lines, h⟩ := exists_lined bytes
  rwa [h.linesOf_eq]

theorem withReturns_of_notMem (whole : lineFeed ∉ line) : withReturns line = line := by
  unfold withReturns
  induction line with
  | nil => rfl
  | cons b line ih =>
    obtain ⟨other, others⟩ := not_or.1 (mt List.mem_cons.2 whole)
    rw [List.flatMap_cons, ih others, if_neg (Ne.symm other)]
    rfl

theorem withReturns_append_cons (whole : lineFeed ∉ line) (rest : List UInt8) :
    withReturns (line ++ lineFeed :: rest) =
      (line ++ [carriageReturn]) ++ lineFeed :: withReturns rest := by
  have front := withReturns_of_notMem whole
  unfold withReturns at front ⊢
  rw [List.flatMap_append, List.flatMap_cons, front, if_pos rfl, List.append_assoc]
  rfl

/-- The lines get a carriage return at their ends, which says nothing. -/
theorem Lined.withReturns (h : Lined bytes lines) (maxSeats : UInt64) :
    ∃ lines', Lined (withReturns bytes) lines' ∧
      lines'.map (Command.ofBytes? maxSeats) = lines.map (Command.ofBytes? maxSeats) := by
  induction h with
  | nil => exact ⟨[], .nil, rfl⟩
  | @last line ne_nil whole =>
    rw [withReturns_of_notMem whole]
    exact ⟨[line], .last ne_nil whole, rfl⟩
  | @cons line rest lines whole _ ih =>
    obtain ⟨lines', others, same⟩ := ih
    have whole' : lineFeed ∉ line ++ [carriageReturn] := by
      rw [List.mem_append, not_or]
      exact ⟨whole, by decide⟩
    refine ⟨(line ++ [carriageReturn]) :: lines', ?_, ?_⟩
    · rw [withReturns_append_cons whole]
      exact .cons whole' others
    · have said : Command.ofBytes? maxSeats (line ++ [carriageReturn]) =
          Command.ofBytes? maxSeats line :=
        Command.ofBytes?_concat (c := '\r') (by decide) (by decide) maxSeats line
      rw [List.map_cons, List.map_cons, said, same]

theorem map_linesOf_withReturns (maxSeats : UInt64) (bytes : List UInt8) :
    (linesOf (withReturns bytes)).map (Command.ofBytes? maxSeats) =
      (linesOf bytes).map (Command.ofBytes? maxSeats) := by
  obtain ⟨lines', h, same⟩ := (lined_linesOf bytes).withReturns maxSeats
  rw [h.linesOf_eq, same]

/-! ## The reader -/

namespace ScriptReader

/-- What the lines say that are still to be read; one that is not UTF-8 says nothing. -/
def unread (r : ScriptReader) : List (Option Command) :=
  (linesOf r.rest).map (Command.ofBytes? r.maxSeats)

/-- What is answered to a call that comes to a line which says this, or to no line. -/
def answer : Option (Option Command) → Except Fault Command
  | none => .ok .finish
  | some none => .error (.io .notText)
  | some (some c) => .ok c

/-- The reader after so many calls. -/
def after (r : ScriptReader) (n : Nat) : ScriptReader := (fun u => u.next.2)^[n] r

/-- A call answers what the first line says, takes this line away, and counts it if it is text. -/
theorem next_unread (r : ScriptReader) :
    r.next.1 = answer r.unread.head? ∧ r.next.2.unread = r.unread.tail ∧
      r.next.2.lineNumber = r.lineNumber + r.unread.head?.toList.countP (·.isSome) := by
  unfold unread
  cases lines : linesOf r.rest with
  | nil =>
    rw [next_of_lines_nil lines, lines]
    exact ⟨rfl, rfl, rfl⟩
  | cons line others =>
    obtain ⟨rest, left, next⟩ := next_of_lines_cons lines
    rw [next, List.map_cons]
    cases said : Command.ofBytes? r.maxSeats line with
    | none =>
      dsimp only
      rw [left]
      exact ⟨rfl, rfl, rfl⟩
    | some c =>
      dsimp only
      rw [left]
      exact ⟨rfl, rfl, rfl⟩

theorem after_succ (r : ScriptReader) (n : Nat) : r.after (n + 1) = (r.after n).next.2 :=
  Function.iterate_succ_apply' _ n r

/-- Each call takes one line away. -/
theorem unread_after (r : ScriptReader) (n : Nat) : (r.after n).unread = r.unread.drop n := by
  induction n with
  | zero => rfl
  | succ n ih => rw [after_succ, (next_unread _).2.1, ih, List.tail_drop]

theorem next_after (r : ScriptReader) (n : Nat) : (r.after n).next.1 = answer r.unread[n]? := by
  rw [(next_unread _).1, unread_after, List.head?_drop]

/-- Each call counts the line that it takes away, if this is text. -/
theorem lineNumber_after (r : ScriptReader) (n : Nat) :
    (r.after n).lineNumber = r.lineNumber + (r.unread.take n).countP (·.isSome) := by
  induction n with
  | zero => rfl
  | succ n ih =>
    rw [after_succ, (next_unread _).2.2, ih, unread_after, List.head?_drop, List.take_add_one,
      List.countP_append, Nat.add_assoc]

/-- Readers that have the same to say are the same to whoever calls them. -/
theorem after_congr {r u : ScriptReader} (same : r.unread = u.unread)
    (count : r.lineNumber = u.lineNumber) (n : Nat) :
    (r.after n).next.1 = (u.after n).next.1 ∧ (r.after n).lineNumber = (u.after n).lineNumber := by
  rw [next_after, next_after, lineNumber_after, lineNumber_after, same, count]
  exact ⟨rfl, rfl⟩

theorem lineNumber_after_succ {r : ScriptReader} {n : Nat} {said : Option Command}
    (h : r.unread[n]? = some said) :
    (r.after (n + 1)).lineNumber = (r.after n).lineNumber + if said.isSome then 1 else 0 := by
  rw [after_succ, (next_unread _).2.2, unread_after, List.head?_drop, h, Option.toList_some,
    List.countP_singleton]

/-- Behind the last line nothing changes any more. -/
theorem next_after_of_length_le {r : ScriptReader} {n : Nat} (h : (linesOf r.rest).length ≤ n) :
    (r.after n).next = (.ok .finish, r.after n) := by
  have none_left : (r.after n).unread = [] := by
    rw [unread_after]
    refine List.drop_of_length_le ?_
    unfold unread
    rwa [List.length_map]
  exact next_of_lines_nil (List.map_eq_nil_iff.1 none_left)

/-- **A script is read line by line.**  Each call answers what the next line says and counts it; a
line that is not UTF-8 is a fault and is not counted; behind the last line every call answers that
there is no further line.  So as many lines have been counted as calls were made, up to the number of
lines, while there is no fault.  A script whose lines end in a carriage return and a line feed answers
the same and counts the same. -/
theorem after_reads (maxSeats : UInt64) (bytes : List UInt8) :
    let r : ScriptReader := { rest := bytes, maxSeats }
    let r' : ScriptReader := { rest := withReturns bytes, maxSeats }
    let lines := linesOf bytes
    Lined bytes lines ∧
      (∀ n line, lines[n]? = some line →
        (∀ text, Utf8.decode line = .ok text →
          (r.after n).next.1 = .ok (.ofLine maxSeats text) ∧
            (r.after (n + 1)).lineNumber = (r.after n).lineNumber + 1) ∧
        ∀ fault, Utf8.decode line = .error fault →
          (r.after n).next.1 = .error (.io .notText) ∧
            (r.after (n + 1)).lineNumber = (r.after n).lineNumber) ∧
      (∀ n, lines.length ≤ n → (r.after n).next = (.ok .finish, r.after n)) ∧
      (∀ n, (∀ line ∈ lines.take n, ∃ text, Utf8.decode line = .ok text) →
        (r.after n).lineNumber = min n lines.length) ∧
      ∀ n, (r'.after n).next.1 = (r.after n).next.1 ∧
        (r'.after n).lineNumber = (r.after n).lineNumber := by
  intro r r' lines
  refine ⟨lined_linesOf bytes, ?_, fun n => next_after_of_length_le (r := r), ?_, ?_⟩
  · intro n line found
    have here : r.unread[n]? = some (Command.ofBytes? maxSeats line) := by
      rw [unread, List.getElem?_map, show (linesOf r.rest)[n]? = some line from found]
      rfl
    rw [next_after, lineNumber_after_succ here, here]
    constructor
    · intro text read
      unfold Command.ofBytes?
      rw [read]
      exact ⟨rfl, rfl⟩
    · intro fault read
      unfold Command.ofBytes?
      rw [read]
      exact ⟨rfl, rfl⟩
  · intro n good
    have text : ∀ said ∈ r.unread.take n, said.isSome = true := by
      intro said mem
      rw [unread, ← List.map_take] at mem
      obtain ⟨line, hline, rfl⟩ := List.mem_map.1 mem
      obtain ⟨text, read⟩ := good line hline
      unfold Command.ofBytes?
      rw [read]
      rfl
    rw [lineNumber_after, List.countP_eq_length.2 text, List.length_take, unread, List.length_map]
    exact Nat.zero_add _
  · exact after_congr (map_linesOf_withReturns maxSeats bytes) rfl

/-- A comment, a line that is no text, and a last line without a line feed. -/
theorem after_reads_broken_line :
    let bytes := Utf8.encode "# all of it\n" ++ [0xFF, lineFeed] ++ Utf8.encode "LIST"
    let r : ScriptReader := { rest := bytes, maxSeats := 2 }
    let r' : ScriptReader := { rest := withReturns bytes, maxSeats := 2 }
    (r.after 1).lineNumber = 1 ∧ (r.after 1).next.1 = .error (.io .notText) ∧
      (r.after 2).lineNumber = 1 ∧ (r.after 2).next.1 = .ok .list ∧
      (r.after 5).next.1 = .ok .finish ∧ (r'.after 2).next.1 = .ok .list := by
  intro bytes r r'
  obtain ⟨-, each, finished, counted, returns⟩ := after_reads 2 bytes
  have first : (linesOf bytes).take 1 = [Utf8.encode "# all of it"] := by decide +kernel
  have count : (r.after 1).lineNumber = 1 := by
    refine counted 1 ?_
    rw [first]
    exact List.forall_mem_singleton.2 ⟨_, Utf8.decode_encode _⟩
  have broken := (each 1 [0xFF] (by decide +kernel)).2 (.invalid 1 0) (by decide +kernel)
  have listed := (each 2 (Utf8.encode "LIST") (by decide +kernel)).1 _ (Utf8.decode_encode _)
  have said : Command.ofLine 2 "LIST" = .list := by decide +kernel
  rw [said] at listed
  refine ⟨count, broken.1, broken.2.trans count, listed.1, ?_, (returns 2).1.trans listed.1⟩
  rw [finished 5 (by decide +kernel)]

end ScriptReader

end BoxOffice
