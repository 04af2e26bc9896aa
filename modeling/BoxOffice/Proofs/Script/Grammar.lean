import BoxOffice.Proofs.Text.Numeral
import BoxOffice.Script.Command
import Mathlib.Data.List.Forall2
/-!
# What the lines of a script have to be

`Command.Writes` is the grammar of the lines: it says which texts write which command.  Here a text
is a line without the white space at its ends.  A line is read as the command that it writes, and as
`invalid` if it writes none and is neither blank nor a comment.

Main statement: `Command.ofLine_reads`.
-/

namespace BoxOffice

open Text

/-! ## The grammar -/

/-- A seat is written `(row,column)`, without white space. -/
inductive SeatText : List Char → Seat → Prop
  | mk {row col : List Char} {seat : Seat} (row_text : Numeral row seat.row.toNat)
      (col_text : Numeral col seat.col.toNat) :
      SeatText ('(' :: (row ++ ',' :: col) ++ [')']) seat

/-- Seats are listed in brackets, with white space between them and, if one likes, around them. -/
inductive SeatList : List Char → List Seat → Prop
  | mk {front body back : List Char} {tokens : List (List Char)} {seats : List Seat}
      (front_blank : Blanks front) (back_blank : Blanks back) (spaced : Spaced tokens body)
      (each : List.Forall₂ SeatText tokens seats) :
      SeatList ('[' :: (front ++ body ++ back) ++ [']']) seats

/-- The text writes the command; a reservation lists at most `maxSeats` seats. -/
inductive Command.Writes (maxSeats : UInt64) : List Char → Command → Prop
  | create {t a b c : List Char} {id : UInt32} {rows cols : UInt64}
      (spaced : Spaced ["CREATE".toList, a, b, c] t) (id_text : Numeral a id.toNat)
      (rows_text : Numeral b rows.toNat) (cols_text : Numeral c cols.toNat) :
      Writes maxSeats t (.create id rows cols)
  | reserve {t a listed : List Char} {id : UInt32} {seats : List Seat}
      (spaced : Spaced ["RESERVE".toList, a, listed] t) (id_text : Numeral a id.toNat)
      (seats_text : SeatList listed seats) (few : seats.length ≤ maxSeats.toNat) :
      Writes maxSeats t (.reserve id seats)
  | view {t a : List Char} {id : UInt32} (spaced : Spaced ["SHOW".toList, a] t)
      (id_text : Numeral a id.toNat) : Writes maxSeats t (.view id)
  | wait {t a : List Char} {delay : UInt32} (spaced : Spaced ["WAIT".toList, a] t)
      (delay_text : Numeral a delay.toNat) : Writes maxSeats t (.wait delay none)
  | waitThread {t a b : List Char} {delay thread : UInt32}
      (spaced : Spaced ["WAIT".toList, a, b] t) (delay_text : Numeral a delay.toNat)
      (thread_text : Numeral b thread.toNat) : Writes maxSeats t (.wait delay (some thread))
  | list : Writes maxSeats "LIST".toList .list
  | quit : Writes maxSeats "QUIT".toList .quit
  | help : Writes maxSeats "HELP".toList .help

/-! ## Seats -/

theorem SeatText.isWord {token : List Char} {seat : Seat} (h : SeatText token seat) :
    IsWord token := by
  obtain ⟨row_text, col_text⟩ := h
  refine ⟨List.cons_ne_nil _ _, ?_⟩
  refine List.forall_mem_append.2 ⟨List.forall_mem_cons.2 ⟨by decide, ?_⟩, ?_⟩
  · refine List.forall_mem_append.2 ⟨row_text.solid, ?_⟩
    exact List.forall_mem_cons.2 ⟨by decide, col_text.solid⟩
  · exact List.forall_mem_singleton.2 (by decide)

/-- Seats are listed from one bracket to the other. -/
theorem SeatList.tight {text : List Char} {seats : List Seat} (h : SeatList text seats) :
    Tight text ∧ text ≠ [] := by
  obtain ⟨-, -, -, -⟩ := h
  refine ⟨⟨?_, ?_⟩, List.cons_ne_nil _ _⟩
  · rintro c ⟨⟩
    decide
  · intro c hc
    rw [List.getLast?_concat] at hc
    cases hc
    decide

/-- A list is read element by element. -/
theorem mapM_eq_some_iff {α β : Type} {f : α → Option β} {as : List α} {bs : List β} :
    as.mapM f = some bs ↔ List.Forall₂ (fun a b => f a = some b) as bs := by
  induction as generalizing bs with
  | nil => simp [eq_comm]
  | cons a as ih =>
    rw [List.mapM_cons, List.forall₂_cons_left_iff]
    simp only [Option.bind_eq_bind, Option.pure_def, Option.bind_eq_some_iff, Option.some.injEq, ih]
    constructor
    · rintro ⟨b, read, rest, others, rfl⟩
      exact ⟨b, rest, read, others, rfl⟩
    · rintro ⟨b, rest, read, others, rfl⟩
      exact ⟨b, read, rest, others, rfl⟩

namespace Command

theorem between_eq_some_iff {first last : Char} {text inner : List Char} :
    between first last text = some inner ↔ text = first :: inner ++ [last] := by
  cases text with
  | nil => simp [between]
  | cons c cs =>
    unfold between
    rw [Option.ite_none_right_eq_some, Option.some.injEq, List.cons_append, List.cons.injEq]
    constructor
    · rintro ⟨⟨rfl, hlast⟩, rfl⟩
      exact ⟨rfl, (List.dropLast_append_getLast? last hlast).symm⟩
    · rintro ⟨rfl, rfl⟩
      simp

theorem seat?_eq_some_iff {token : List Char} (word : IsWord token) {seat : Seat} :
    seat? token = some seat ↔ SeatText token seat := by
  unfold seat?
  simp only [Option.bind_eq_bind, Option.pure_def, Option.bind_eq_some_iff, Option.some.injEq,
    word64?_eq_some_iff, between_eq_some_iff, Prod.exists]
  constructor
  · rintro ⟨inner, rfl, row, col, cut, r, row_text, c, col_text, rfl⟩
    obtain ⟨rfl, -⟩ := cutAt_eq_some_iff.1 cut
    -- there is no white space in a word, so trimming its parts does nothing
    have solid : Solid (row ++ ',' :: col) := fun c hc =>
      word.solid c (List.mem_append_left _ (List.mem_cons_of_mem _ hc))
    obtain ⟨row_solid, col_solid⟩ := List.forall_mem_append.1 solid
    rw [Solid.trim_eq row_solid] at row_text
    rw [Solid.trim_eq (List.forall_mem_cons.1 col_solid).2] at col_text
    exact ⟨row_text, col_text⟩
  · rintro ⟨row_text, col_text⟩
    rename_i row col
    refine ⟨row ++ ',' :: col, rfl, row, col, cutAt_eq_some_iff.2 ⟨rfl, row_text.comma_notMem⟩, ?_⟩
    rw [row_text.solid.trim_eq, col_text.solid.trim_eq]
    exact ⟨_, row_text, _, col_text, rfl⟩

/-- Seats in brackets are read one by one. -/
theorem seatList_iff {text : List Char} {seats : List Seat} :
    SeatList text seats ↔ ∃ inner, between '[' ']' text = some inner ∧ words inner ≠ [] ∧
      (words inner).mapM seat? = some seats := by
  simp only [between_eq_some_iff, mapM_eq_some_iff]
  constructor
  · rintro ⟨front_blank, back_blank, spaced, each⟩
    rename_i front body back tokens
    obtain ⟨all, -⟩ := (List.forall₂_and_left _ _).1 (each.imp fun _ _ h => ⟨h.isWord, h⟩)
    have listed : words (front ++ body ++ back) = tokens := by
      rw [words_append_blanks back_blank, words_blanks_append front_blank, spaced.words_eq all]
    refine ⟨front ++ body ++ back, rfl, ?_, ?_⟩
    · rw [listed]
      rintro rfl
      cases spaced
    · rw [listed]
      exact each.imp fun _ _ h => (seat?_eq_some_iff h.isWord).2 h
  · rintro ⟨inner, rfl, ne_nil, each⟩
    obtain ⟨tight, front, back, split, front_blank, back_blank⟩ := stripped_trim inner
    have body_ne_nil : trim inner ≠ [] := by
      intro none
      rw [← words_trim, none] at ne_nil
      exact ne_nil rfl
    obtain ⟨spaced, all⟩ := tight.spaced_words body_ne_nil
    rw [words_trim] at spaced all
    rw [split]
    refine .mk front_blank back_blank spaced ?_
    exact ((List.forall₂_and_left _ _).2 ⟨all, each⟩).imp fun _ _ h => (seat?_eq_some_iff h.1).1 h.2

/-! ## Arguments -/

variable {maxSeats : UInt64} {args t : List Char} {c : Command}

theorem create?_eq_some_iff :
    create? args = some c ↔ ∃ a b d id rows cols, words args = [a, b, d] ∧
      Numeral a (UInt32.toNat id) ∧ Numeral b (UInt64.toNat rows) ∧
      Numeral d (UInt64.toNat cols) ∧ c = .create id rows cols := by
  unfold create?
  split
  · rename_i a b d listed
    rw [listed]
    simp only [Option.bind_eq_bind, Option.pure_def, Option.bind_eq_some_iff, Option.some.injEq,
      word32?_eq_some_iff, word64?_eq_some_iff]
    constructor
    · rintro ⟨id, ha, rows, hb, cols, hd, rfl⟩
      exact ⟨a, b, d, id, rows, cols, rfl, ha, hb, hd, rfl⟩
    · rintro ⟨a, b, d, id, rows, cols, ⟨⟩, ha, hb, hd, rfl⟩
      exact ⟨id, ha, rows, hb, cols, hd, rfl⟩
  · rename_i others
    simp only [reduceCtorEq, false_iff]
    rintro ⟨a, b, d, id, rows, cols, listed, -⟩
    exact others a b d listed

theorem view?_eq_some_iff :
    view? args = some c ↔ ∃ a id, words args = [a] ∧ Numeral a (UInt32.toNat id) ∧
      c = .view id := by
  unfold view?
  split
  · rename_i a listed
    rw [listed]
    simp only [Option.bind_eq_bind, Option.pure_def, Option.bind_eq_some_iff, Option.some.injEq,
      word32?_eq_some_iff]
    constructor
    · rintro ⟨id, ha, rfl⟩
      exact ⟨a, id, rfl, ha, rfl⟩
    · rintro ⟨a, id, ⟨⟩, ha, rfl⟩
      exact ⟨id, ha, rfl⟩
  · rename_i others
    simp only [reduceCtorEq, false_iff]
    rintro ⟨a, id, listed, -⟩
    exact others a listed

theorem wait?_eq_some_iff :
    wait? args = some c ↔
      (∃ a delay, words args = [a] ∧ Numeral a (UInt32.toNat delay) ∧ c = .wait delay none) ∨
      ∃ a b delay thread, words args = [a, b] ∧ Numeral a (UInt32.toNat delay) ∧
        Numeral b (UInt32.toNat thread) ∧ c = .wait delay (some thread) := by
  unfold wait?
  split
  · rename_i a listed
    rw [listed]
    simp only [Option.bind_eq_bind, Option.pure_def, Option.bind_eq_some_iff, Option.some.injEq,
      word32?_eq_some_iff]
    constructor
    · rintro ⟨delay, ha, rfl⟩
      exact .inl ⟨a, delay, rfl, ha, rfl⟩
    · rintro (⟨a, delay, ⟨⟩, ha, rfl⟩ | ⟨a, b, delay, thread, ⟨⟩, -⟩)
      exact ⟨delay, ha, rfl⟩
  · rename_i a b listed
    rw [listed]
    simp only [Option.bind_eq_bind, Option.pure_def, Option.bind_eq_some_iff, Option.some.injEq,
      word32?_eq_some_iff]
    constructor
    · rintro ⟨delay, ha, thread, hb, rfl⟩
      exact .inr ⟨a, b, delay, thread, rfl, ha, hb, rfl⟩
    · rintro (⟨a, delay, ⟨⟩, -⟩ | ⟨a, b, delay, thread, ⟨⟩, ha, hb, rfl⟩)
      exact ⟨delay, ha, thread, hb, rfl⟩
  · rename_i one two
    simp only [reduceCtorEq, false_iff]
    rintro (⟨a, delay, listed, -⟩ | ⟨a, b, delay, thread, listed, -⟩)
    · exact one a listed
    · exact two a b listed

theorem bare?_eq_some_iff {command : Command} :
    bare? command args = some c ↔ args = [] ∧ c = command := by
  unfold bare?
  rw [Option.ite_none_right_eq_some, List.isEmpty_iff, Option.some.injEq, eq_comm (a := command)]

theorem reserve?_eq_some_iff :
    reserve? maxSeats args = some c ↔ ∃ a r id seats, cutAtBlank args = some (a, r) ∧
      Numeral a (UInt32.toNat id) ∧ SeatList (trim r) seats ∧ seats.length ≤ maxSeats.toNat ∧
      c = .reserve id seats := by
  unfold reserve?
  simp only [seatList_iff, Option.bind_eq_bind, Option.pure_def, Option.bind_eq_some_iff,
    Prod.exists, word32?_eq_some_iff, Option.ite_none_left_eq_some, Option.some.injEq,
    List.isEmpty_iff, not_or, Nat.not_lt]
  constructor
  · rintro ⟨a, r, cut, id, id_text, inner, between, ⟨ne_nil, few⟩, seats, each, rfl⟩
    rw [(mapM_eq_some_iff.1 each).length_eq] at few
    exact ⟨a, r, id, seats, cut, id_text, ⟨inner, between, ne_nil, each⟩, few, rfl⟩
  · rintro ⟨a, r, id, seats, cut, id_text, ⟨inner, between, ne_nil, each⟩, few, rfl⟩
    rw [← (mapM_eq_some_iff.1 each).length_eq] at few
    exact ⟨a, r, cut, id, id_text, inner, between, ⟨ne_nil, few⟩, seats, each, rfl⟩

/-! ## Lines -/

/-- The command that a line is read as, when it has no white space at its ends. -/
def read? (maxSeats : UInt64) (t : List Char) : Option Command :=
  match cutAtBlank t with
  | some (keyword, rest) => ofParts? maxSeats keyword (trim rest)
  | none => ofParts? maxSeats t []

theorem ofChars_eq (maxSeats : UInt64) (line : List Char) :
    ofChars maxSeats line =
      if trim line = [] ∨ (trim line).head? = some '#' then .empty
      else (read? maxSeats (trim line)).getD .invalid := by
  unfold ofChars read?
  simp only [List.isEmpty_iff]
  cases cutAtBlank (trim line) <;> rfl

theorem writes_of_bare (h : ofParts? maxSeats t [] = some c) : Writes maxSeats t c := by
  unfold ofParts? at h
  split at h
  · obtain ⟨a, b, d, id, rows, cols, ⟨⟩, -⟩ := create?_eq_some_iff.1 h
  split at h
  · obtain ⟨a, r, id, seats, ⟨⟩, -⟩ := reserve?_eq_some_iff.1 h
  split at h
  · obtain ⟨a, id, ⟨⟩, -⟩ := view?_eq_some_iff.1 h
  split at h
  · rename_i keyword
    obtain ⟨-, rfl⟩ := bare?_eq_some_iff.1 h
    exact keyword ▸ .list
  split at h
  · obtain ⟨a, delay, ⟨⟩, -⟩ | ⟨a, b, delay, thread, ⟨⟩, -⟩ := wait?_eq_some_iff.1 h
  split at h
  · rename_i keyword
    obtain ⟨-, rfl⟩ := bare?_eq_some_iff.1 h
    exact keyword ▸ .quit
  split at h
  · rename_i keyword
    obtain ⟨-, rfl⟩ := bare?_eq_some_iff.1 h
    exact keyword ▸ .help
  · cases h

theorem writes_of_cut {keyword r : List Char} (tight : Tight t)
    (cut : cutAtBlank t = some (keyword, r)) (h : ofParts? maxSeats keyword (trim r) = some c) :
    Writes maxSeats t c := by
  have more := tight.rest_ne_nil cut
  unfold ofParts? at h
  split at h
  · subst keyword
    obtain ⟨a, b, d, id, rows, cols, listed, ha, hb, hd, rfl⟩ := create?_eq_some_iff.1 h
    have all : ∀ v ∈ [a, b, d], IsWord v := by simp [ha.isWord, hb.isWord, hd.isWord]
    exact .create ((tight.spaced_words_iff (by decide) all).2 ⟨r, cut, listed⟩) ha hb hd
  split at h
  · subst keyword
    obtain ⟨a, r', id, seats, cut', ha, listed, few, rfl⟩ := reserve?_eq_some_iff.1 h
    obtain ⟨tight', ne_nil⟩ := listed.tight
    refine .reserve ?_ ha listed few
    refine (tight.spaced_cons_iff (by decide) ha.solid.tight ha.ne_nil).2 ⟨r, cut, ?_⟩
    exact ((stripped_trim r).tight.spaced_cons_iff ha.solid tight' ne_nil).2 ⟨r', cut', .one _⟩
  split at h
  · subst keyword
    obtain ⟨a, id, listed, ha, rfl⟩ := view?_eq_some_iff.1 h
    have all : ∀ v ∈ [a], IsWord v := by simp [ha.isWord]
    exact .view ((tight.spaced_words_iff (by decide) all).2 ⟨r, cut, listed⟩) ha
  split at h
  · exact absurd (bare?_eq_some_iff.1 h).1 more
  split at h
  · subst keyword
    obtain ⟨a, delay, listed, ha, rfl⟩ | ⟨a, b, delay, thread, listed, ha, hb, rfl⟩ :=
      wait?_eq_some_iff.1 h
    · have all : ∀ v ∈ [a], IsWord v := by simp [ha.isWord]
      exact .wait ((tight.spaced_words_iff (by decide) all).2 ⟨r, cut, listed⟩) ha
    · have all : ∀ v ∈ [a, b], IsWord v := by simp [ha.isWord, hb.isWord]
      exact .waitThread ((tight.spaced_words_iff (by decide) all).2 ⟨r, cut, listed⟩) ha hb
  split at h
  · exact absurd (bare?_eq_some_iff.1 h).1 more
  split at h
  · exact absurd (bare?_eq_some_iff.1 h).1 more
  · cases h

theorem writes_of_read? (tight : Tight t) (h : read? maxSeats t = some c) :
    Writes maxSeats t c := by
  unfold read? at h
  split at h
  · rename_i keyword r cut
    exact writes_of_cut tight cut h
  · exact writes_of_bare h

theorem read?_of_writes (tight : Tight t) (h : Writes maxSeats t c) :
    read? maxSeats t = some c := by
  unfold read?
  cases h with
  | @create _ a b d id rows cols spaced ha hb hd =>
    have all : ∀ v ∈ [a, b, d], IsWord v := by simp [ha.isWord, hb.isWord, hd.isWord]
    obtain ⟨r, cut, listed⟩ := (tight.spaced_words_iff (by decide) all).1 spaced
    rw [cut]
    exact create?_eq_some_iff.2 ⟨a, b, d, id, rows, cols, listed, ha, hb, hd, rfl⟩
  | @reserve _ a listed id seats spaced ha seats_text few =>
    obtain ⟨tight', ne_nil⟩ := seats_text.tight
    obtain ⟨r, cut, spaced⟩ := (tight.spaced_cons_iff (by decide) ha.solid.tight ha.ne_nil).1 spaced
    obtain ⟨r', cut', rest⟩ :=
      ((stripped_trim r).tight.spaced_cons_iff ha.solid tight' ne_nil).1 spaced
    rw [← spaced_one_iff.1 rest] at seats_text
    rw [cut]
    exact reserve?_eq_some_iff.2 ⟨a, r', id, seats, cut', ha, seats_text, few, rfl⟩
  | @view _ a id spaced ha =>
    have all : ∀ v ∈ [a], IsWord v := by simp [ha.isWord]
    obtain ⟨r, cut, listed⟩ := (tight.spaced_words_iff (by decide) all).1 spaced
    rw [cut]
    exact view?_eq_some_iff.2 ⟨a, id, listed, ha, rfl⟩
  | @wait _ a delay spaced ha =>
    have all : ∀ v ∈ [a], IsWord v := by simp [ha.isWord]
    obtain ⟨r, cut, listed⟩ := (tight.spaced_words_iff (by decide) all).1 spaced
    rw [cut]
    exact wait?_eq_some_iff.2 (.inl ⟨a, delay, listed, ha, rfl⟩)
  | @waitThread _ a b delay thread spaced ha hb =>
    have all : ∀ v ∈ [a, b], IsWord v := by simp [ha.isWord, hb.isWord]
    obtain ⟨r, cut, listed⟩ := (tight.spaced_words_iff (by decide) all).1 spaced
    rw [cut]
    exact wait?_eq_some_iff.2 (.inr ⟨a, b, delay, thread, listed, ha, hb, rfl⟩)
  | list => rfl
  | quit => rfl
  | help => rfl

/-- The reader and the grammar agree. -/
theorem read?_eq_some_iff (tight : Tight t) : read? maxSeats t = some c ↔ Writes maxSeats t c :=
  ⟨writes_of_read? tight, read?_of_writes tight⟩

/-! ## What a command begins with -/

theorem head_of_prefix {keyword : List Char} (ne_nil : keyword ≠ [])
    (not_mark : keyword.head? ≠ some '#') (h : keyword <+: t) : t ≠ [] ∧ t.head? ≠ some '#' := by
  obtain ⟨rest, rfl⟩ := h
  rw [List.head?_append, Option.or_of_isSome (List.isSome_head?.2 ne_nil)]
  exact ⟨List.append_ne_nil_of_left_ne_nil ne_nil rest, not_mark⟩

/-- What writes a command is neither blank nor a comment. -/
theorem Writes.head (h : Writes maxSeats t c) : t ≠ [] ∧ t.head? ≠ some '#' := by
  cases h with
  | create spaced => exact head_of_prefix (by decide) (by decide) spaced.prefix
  | reserve spaced => exact head_of_prefix (by decide) (by decide) spaced.prefix
  | view spaced => exact head_of_prefix (by decide) (by decide) spaced.prefix
  | wait spaced => exact head_of_prefix (by decide) (by decide) spaced.prefix
  | waitThread spaced => exact head_of_prefix (by decide) (by decide) spaced.prefix
  | list | quit | help => decide

/-- A blank line, a line that cannot be read and the end of a script are not written. -/
theorem Writes.command (h : Writes maxSeats t c) : c ≠ .empty ∧ c ≠ .invalid ∧ c ≠ .finish := by
  cases h <;> exact ⟨nofun, nofun, nofun⟩

/-! ## The reader of lines -/

/-- A line is passed over, or writes the command that it is read as, or writes none. -/
theorem ofLine_cases (maxSeats : UInt64) (line : String) :
    let t := trim line.toList
    (t = [] ∨ t.head? = some '#') ∧ ofLine maxSeats line = .empty ∨
      Writes maxSeats t (ofLine maxSeats line) ∨
      ¬(t = [] ∨ t.head? = some '#') ∧ (∀ c, ¬Writes maxSeats t c) ∧
        ofLine maxSeats line = .invalid := by
  have tight : Tight (trim line.toList) := (stripped_trim _).tight
  have read : ofLine maxSeats line = _ := ofChars_eq maxSeats line.toList
  by_cases skipped : trim line.toList = [] ∨ (trim line.toList).head? = some '#'
  · rw [if_pos skipped] at read
    exact .inl ⟨skipped, read⟩
  · rw [if_neg skipped] at read
    refine .inr ?_
    cases found : read? maxSeats (trim line.toList) with
    | none =>
      rw [found] at read
      refine .inr ⟨skipped, fun c writes => ?_, read⟩
      rw [(read?_eq_some_iff tight).2 writes] at found
      cases found
    | some c =>
      rw [found] at read
      rw [read]
      exact .inl ((read?_eq_some_iff tight).1 found)

theorem ofLine_eq_empty_iff (maxSeats : UInt64) (line : String) :
    ofLine maxSeats line = .empty ↔
      trim line.toList = [] ∨ (trim line.toList).head? = some '#' := by
  obtain ⟨skipped, read⟩ | writes | ⟨kept, -, read⟩ := ofLine_cases maxSeats line
  · exact iff_of_true read skipped
  · exact iff_of_false writes.command.1 (not_or.2 writes.head)
  · rw [read]
    exact iff_of_false nofun kept

theorem writes_iff (maxSeats : UInt64) (line : String) (c : Command) :
    Writes maxSeats (trim line.toList) c ↔
      ofLine maxSeats line = c ∧ c ≠ .empty ∧ c ≠ .invalid := by
  constructor
  · intro writes
    obtain ⟨skipped, -⟩ | written | ⟨-, unwritten, -⟩ := ofLine_cases maxSeats line
    · exact absurd skipped (not_or.2 writes.head)
    · have tight : Tight (trim line.toList) := (stripped_trim _).tight
      have same := (read?_of_writes tight written).symm.trans (read?_of_writes tight writes)
      exact ⟨Option.some.inj same, writes.command.1, writes.command.2.1⟩
    · exact absurd writes (unwritten c)
  · rintro ⟨rfl, not_empty, not_invalid⟩
    obtain ⟨-, read⟩ | written | ⟨-, -, read⟩ := ofLine_cases maxSeats line
    · exact absurd read not_empty
    · exact written
    · exact absurd read not_invalid

theorem ofLine_eq_invalid_iff (maxSeats : UInt64) (line : String) :
    ofLine maxSeats line = .invalid ↔
      ¬(trim line.toList = [] ∨ (trim line.toList).head? = some '#') ∧
        ∀ c, ¬Writes maxSeats (trim line.toList) c := by
  obtain ⟨skipped, read⟩ | writes | ⟨kept, unwritten, read⟩ := ofLine_cases maxSeats line
  · rw [read]
    exact iff_of_false nofun fun other => other.1 skipped
  · exact iff_of_false writes.command.2.1 fun other => other.2 _ writes
  · exact iff_of_true read ⟨kept, unwritten⟩

/-- A line that is read is never taken for the end of the script. -/
theorem ofLine_ne_finish (maxSeats : UInt64) (line : String) : ofLine maxSeats line ≠ .finish := by
  obtain ⟨-, read⟩ | writes | ⟨-, -, read⟩ := ofLine_cases maxSeats line
  · rw [read]
    nofun
  · exact writes.command.2.2
  · rw [read]
    nofun

/-- **A line is read as the command that it writes.**  White space at its ends does not count.  A
line of which nothing else is left, or that begins with `#`, is `empty`; a line that is not empty and
writes no command is `invalid`. -/
theorem ofLine_reads (maxSeats : UInt64) (line : String) :
    ∃ t, Stripped line.toList t ∧
      (ofLine maxSeats line = .empty ↔ t = [] ∨ t.head? = some '#') ∧
      (∀ c, Writes maxSeats t c ↔ ofLine maxSeats line = c ∧ c ≠ .empty ∧ c ≠ .invalid) ∧
      (ofLine maxSeats line = .invalid ↔
        ¬(t = [] ∨ t.head? = some '#') ∧ ∀ c, ¬Writes maxSeats t c) ∧
      ofLine maxSeats line ≠ .finish :=
  ⟨trim line.toList, stripped_trim line.toList, ofLine_eq_empty_iff maxSeats line,
    writes_iff maxSeats line, ofLine_eq_invalid_iff maxSeats line, ofLine_ne_finish maxSeats line⟩

example : ofLine 2 "  RESERVE 7\t[ (1,2) (+3,04) ]\r\n" = .reserve 7 [⟨1, 2⟩, ⟨3, 4⟩] := by
  decide +kernel

end Command

end BoxOffice
