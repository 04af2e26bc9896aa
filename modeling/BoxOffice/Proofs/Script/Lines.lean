import BoxOffice.Proofs.Text.Utf8
import BoxOffice.Proofs.Text.Words
import BoxOffice.Script.Reader
/-!
# Reading a script line by line

`Command.ofBytes?` says what the bytes of a line say, if they are text.  The reader of a script comes
to the lines of its script (`linesOf`) one after the other and says of each what its bytes say
(`ScriptReader.next_of_lines_nil`, `ScriptReader.next_of_lines_cons`): the line feed behind a line is
white space and makes no difference.
-/

namespace BoxOffice

open Text

/-! ## Lines -/

variable {line rest bytes : List UInt8}

theorem linesOf_append_cons (whole : lineFeed ∉ line) (rest : List UInt8) :
    linesOf (line ++ lineFeed :: rest) = line :: linesOf rest := by
  obtain ⟨piece, pieces, more⟩ := List.exists_cons_of_ne_nil (List.splitOn_ne_nil lineFeed rest)
  unfold linesOf
  rw [List.splitOn_append_cons_self_of_not_mem whole, more]
  dsimp only
  rw [List.getLast?_cons_cons]
  split <;> rfl

/-- A last line without a line feed. -/
theorem linesOf_of_notMem (whole : lineFeed ∉ line) (ne_nil : line ≠ []) :
    linesOf line = [line] := by
  unfold linesOf
  rw [List.splitOn_eq_singleton whole]
  exact if_neg fun none => ne_nil (Option.some.inj none)

/-- The reader cuts the first line off, and the line feed behind it. -/
theorem linesOf_eq_cons (ne_nil : bytes ≠ []) :
    ∃ line, linesOf bytes = line :: linesOf (cutLine bytes).2 ∧
      ((cutLine bytes).1 = line ∨ (cutLine bytes).1 = line ++ [lineFeed]) := by
  have whole : lineFeed ∉ bytes.takeWhile (· ≠ lineFeed) := by
    intro mem
    have other := List.all_eq_true.1 List.all_takeWhile lineFeed mem
    exact absurd other (by decide)
  have all : bytes.takeWhile (· ≠ lineFeed) ++ bytes.dropWhile (· ≠ lineFeed) = bytes :=
    List.takeWhile_append_dropWhile
  have stop := List.head?_dropWhile_not (· ≠ lineFeed) bytes
  unfold cutLine
  cases left : bytes.dropWhile (· ≠ lineFeed) with
  | nil =>
    rw [left, List.append_nil] at all
    rw [all] at whole
    exact ⟨bytes, linesOf_of_notMem whole ne_nil, .inl rfl⟩
  | cons b rest =>
    rw [left] at all stop
    obtain rfl : b = lineFeed := by simpa using stop
    refine ⟨_, ?_, .inr rfl⟩
    conv_lhs => rw [← all]
    exact linesOf_append_cons whole rest

/-! ## What a line says -/

namespace Command

/-- What the bytes of a line say; nothing if they are not UTF-8. -/
def ofBytes? (maxSeats : UInt64) (line : List UInt8) : Option Command :=
  (Utf8.decode line).toOption.map (ofLine maxSeats)

theorem ofLine_push {c : Char} (blank : isBlank c = true) (maxSeats : UInt64) (line : String) :
    ofLine maxSeats (line.push c) = ofLine maxSeats line := by
  unfold ofLine ofChars
  rw [String.toList_push, trim_append_blanks (List.forall_mem_singleton.2 blank)]

/-- An ASCII character of white space at the end of a line makes no difference. -/
theorem ofBytes?_concat {c : Char} (ascii : c.toNat < 0x80) (blank : isBlank c = true)
    (maxSeats : UInt64) (line : List UInt8) :
    ofBytes? maxSeats (line ++ [UInt8.ofNat c.toNat]) = ofBytes? maxSeats line := by
  unfold ofBytes?
  rw [Utf8.decode_concat ascii, Option.map_map]
  congr 1
  exact funext (ofLine_push blank maxSeats)

end Command

/-! ## The reader -/

namespace ScriptReader

variable {r : ScriptReader} {lines : List (List UInt8)}

/-- Behind the last line the reader is at the end. -/
theorem next_of_lines_nil (h : linesOf r.rest = []) : r.next = (.ok .finish, r) := by
  have finished : r.rest = [] := by
    by_contra ne_nil
    obtain ⟨line, cut, -⟩ := linesOf_eq_cons ne_nil
    rw [h] at cut
    cases cut
  unfold next
  rw [finished]
  rfl

/-- The reader says what its next line says. -/
theorem next_of_lines_cons (h : linesOf r.rest = line :: lines) :
    ∃ rest, linesOf rest = lines ∧
      r.next = match Command.ofBytes? r.maxSeats line with
        | some c => (.ok c, { r with rest, lineNumber := r.lineNumber + 1 })
        | none => (.error (.io .notText), { r with rest }) := by
  have ne_nil : r.rest ≠ [] := by
    intro finished
    rw [finished] at h
    cases h
  obtain ⟨first, cut, with_feed⟩ := linesOf_eq_cons ne_nil
  obtain ⟨rfl, rfl⟩ := List.cons.inj (h.symm.trans cut)
  have same : Command.ofBytes? r.maxSeats (cutLine r.rest).1 =
      Command.ofBytes? r.maxSeats line := by
    obtain bare | feed := with_feed
    · rw [bare]
    · rw [feed]
      exact Command.ofBytes?_concat (c := '\n') (by decide) (by decide) r.maxSeats line
  refine ⟨(cutLine r.rest).2, rfl, ?_⟩
  rw [← same]
  unfold next Command.ofBytes?
  rw [if_neg (by simpa using ne_nil)]
  dsimp only
  cases Utf8.decode (cutLine r.rest).1 <;> rfl

end ScriptReader

end BoxOffice
