import BoxOffice.Text.Blank
/-!
# Words and the white space between them

What becomes of a text when the white space at its ends is dropped is said by `Stripped`, and `Spaced`
says of what pieces a text is made, with white space between them.

* `stripped_trim` and `Stripped.eq_trim`: trimming leaves what is stripped, and nothing else is;
* `exists_cut_iff`: a text without white space at its ends is cut into its first word and what
  follows the white space behind that;
* `Tight.spaced_words` and `Spaced.words_eq`: such a text is made of its words and of no others;
* `Tight.spaced_words_iff`: it is made of a first word and those behind the cut.
-/

namespace BoxOffice.Text

/-- White space, or nothing. -/
def Blanks (cs : List Char) : Prop := ∀ c ∈ cs, isBlank c = true

/-- There is no white space in the text. -/
def Solid (cs : List Char) : Prop := ∀ c ∈ cs, isBlank c = false

instance (cs : List Char) : Decidable (Solid cs) :=
  List.decidableBAll (fun c => isBlank c = false) cs

/-- There is no white space at the ends of the text. -/
structure Tight (t : List Char) : Prop where
  head : ∀ c, t.head? = some c → isBlank c = false
  last : ∀ c, t.getLast? = some c → isBlank c = false

/-- The text `t` is what is left of `cs` without the white space at its ends. -/
structure Stripped (cs t : List Char) : Prop where
  tight : Tight t
  ends : ∃ front back, cs = front ++ t ++ back ∧ Blanks front ∧ Blanks back

/-- A text of these pieces, with white space between one and the next. -/
inductive Spaced : List (List Char) → List Char → Prop
  | one (w : List Char) : Spaced [w] w
  | more {w gap t : List Char} {ws : List (List Char)} (gap_ne_nil : gap ≠ [])
      (blanks : Blanks gap) (rest : Spaced ws t) : Spaced (w :: ws) (w ++ gap ++ t)

/-- One or more characters, none of them white space. -/
structure IsWord (w : List Char) : Prop where
  ne_nil : w ≠ []
  solid : Solid w

variable {cs t w rest gap : List Char} {ws : List (List Char)}

theorem Solid.tight (h : Solid t) : Tight t :=
  ⟨fun c hc => h c (List.mem_of_mem_head? hc), fun c hc => h c (List.mem_of_getLast? hc)⟩

theorem Tight.front_eq_nil (h : Tight (gap ++ cs)) (blanks : Blanks gap) : gap = [] := by
  cases gap with
  | nil => rfl
  | cons c gap => cases (h.head c rfl).symm.trans (blanks c List.mem_cons_self)

theorem Tight.back_eq_nil (h : Tight (cs ++ gap)) (blanks : Blanks gap) : gap = [] := by
  cases last : gap.getLast? with
  | none => exact List.getLast?_eq_none_iff.1 last
  | some c =>
    have blank := blanks c (List.mem_of_getLast? last)
    cases (h.last c (by rw [List.getLast?_append, last]; rfl)).symm.trans blank

/-! ## Trimming -/

theorem dropWhile_eq_nil (h : Blanks cs) : cs.dropWhile isBlank = [] := by
  have all : (cs ++ []).dropWhile isBlank = [] := List.dropWhile_append_of_pos h
  rwa [List.append_nil] at all

theorem dropWhile_eq_self (h : ∀ c, t.head? = some c → isBlank c = false) :
    t.dropWhile isBlank = t := by
  cases t with
  | nil => rfl
  | cons c t =>
    rw [List.dropWhile_cons_of_neg]
    simpa using h c rfl

/-- Dropping stops where there is no white space. -/
theorem isBlank_head_dropWhile {c : Char} (h : (cs.dropWhile isBlank).head? = some c) :
    isBlank c = false := by
  have stop := List.head?_dropWhile_not isBlank cs
  rw [h] at stop
  exact stop

theorem blanks_takeWhile (cs : List Char) : Blanks (cs.takeWhile isBlank) :=
  List.all_eq_true.1 List.all_takeWhile

theorem stripped_trim (cs : List Char) : Stripped cs (trim cs) := by
  have front : cs.takeWhile isBlank ++ trimFront cs = cs := List.takeWhile_append_dropWhile
  have back : trim cs ++ ((trimFront cs).reverse.takeWhile isBlank).reverse = trimFront cs := by
    unfold trim trimBack
    rw [← List.reverse_append, List.takeWhile_append_dropWhile, List.reverse_reverse]
  refine ⟨⟨fun c hc => ?_, fun c hc => ?_⟩, cs.takeWhile isBlank,
    ((trimFront cs).reverse.takeWhile isBlank).reverse, ?_, blanks_takeWhile cs,
    fun c hc => blanks_takeWhile _ c (List.mem_reverse.1 hc)⟩
  · have begins : (trimFront cs).head? = some c := by
      rw [← back, List.head?_append, hc]
      rfl
    exact isBlank_head_dropWhile begins
  · unfold trim trimBack at hc
    rw [List.getLast?_reverse] at hc
    exact isBlank_head_dropWhile hc
  · rw [List.append_assoc, back, front]

/-- There is only one way to drop the white space at the ends. -/
theorem Stripped.eq_trim (h : Stripped cs t) : trim cs = t := by
  obtain ⟨tight, front, back, rfl, front_blank, back_blank⟩ := h
  have first : trimFront (front ++ t ++ back) = if t = [] then [] else t ++ back := by
    unfold trimFront
    rw [List.append_assoc, List.dropWhile_append_of_pos front_blank]
    split
    · rename_i none
      rw [none, List.nil_append, dropWhile_eq_nil back_blank]
    · rename_i ne_nil
      refine dropWhile_eq_self fun c hc => tight.head c ?_
      rwa [List.head?_append, Option.or_of_isSome (List.isSome_head?.2 ne_nil)] at hc
  have second : trimBack (t ++ back) = t := by
    unfold trimBack
    rw [List.reverse_append, List.dropWhile_append_of_pos, dropWhile_eq_self, List.reverse_reverse]
    · intro c hc
      rw [List.head?_reverse] at hc
      exact tight.last c hc
    · exact fun c hc => back_blank c (List.mem_reverse.1 hc)
  unfold trim
  rw [first]
  split
  · rename_i none
    rw [none]
    rfl
  · exact second

/-- White space at the end of a text makes no difference. -/
theorem trim_append_blanks (h : Blanks gap) : trim (cs ++ gap) = trim cs := by
  obtain ⟨tight, front, back, split, front_blank, back_blank⟩ := stripped_trim cs
  refine Stripped.eq_trim ⟨tight, front, back ++ gap, ?_, front_blank, ?_⟩
  · rw [← List.append_assoc, ← split]
  · exact List.forall_mem_append.2 ⟨back_blank, h⟩

theorem Solid.trim_eq (h : Solid cs) : trim cs = cs :=
  Stripped.eq_trim ⟨h.tight, [], [], by simp, nofun, nofun⟩

/-! ## Cutting -/

theorem cutAtBlank_eq_some_iff {a b : List Char} :
    cutAtBlank cs = some (a, b) ↔ Solid a ∧ ∃ c, isBlank c = true ∧ cs = a ++ c :: b := by
  induction cs generalizing a with
  | nil => simp [cutAtBlank]
  | cons d cs ih =>
    unfold cutAtBlank
    by_cases blank : isBlank d = true
    · rw [if_pos blank]
      constructor
      · rintro ⟨⟩
        exact ⟨nofun, d, blank, rfl⟩
      · rintro ⟨solid, c, -, split⟩
        cases a with
        | nil =>
          cases split
          rfl
        | cons e a =>
          cases split
          cases (solid d List.mem_cons_self).symm.trans blank
    · rw [if_neg blank, Option.map_eq_some_iff]
      constructor
      · rintro ⟨⟨a', b'⟩, cut, same⟩
        cases same
        obtain ⟨solid, c, hc, rfl⟩ := ih.1 cut
        exact ⟨List.forall_mem_cons.2 ⟨by simpa using blank, solid⟩, c, hc, rfl⟩
      · rintro ⟨solid, c, hc, split⟩
        cases a with
        | nil =>
          cases split
          exact absurd hc blank
        | cons e a =>
          cases split
          exact ⟨(a, b), ih.2 ⟨(List.forall_mem_cons.1 solid).2, c, hc, rfl⟩, rfl⟩

theorem cutAtBlank_eq_none_iff : cutAtBlank cs = none ↔ Solid cs := by
  induction cs with
  | nil => simp [cutAtBlank, Solid]
  | cons d cs ih =>
    unfold cutAtBlank
    by_cases blank : isBlank d = true
    · simp [Solid, blank]
    · simp [Solid, blank, ih]

theorem cutAt_eq_some_iff {mark : Char} {a b : List Char} :
    cutAt mark cs = some (a, b) ↔ cs = a ++ mark :: b ∧ mark ∉ a := by
  refine ⟨cutAt_eq_some, ?_⟩
  rintro ⟨rfl, absent⟩
  induction a with
  | nil => simp [cutAt]
  | cons c a ih =>
    rw [List.mem_cons, not_or] at absent
    have other : c ≠ mark := fun same => absent.1 same.symm
    simp [cutAt, other, ih absent.2]

/-- A text without white space at its ends is cut into a part before and a part after some white
space. -/
theorem exists_cut_iff (tight : Tight t) :
    (∃ r, cutAtBlank t = some (w, r) ∧ trim r = rest) ↔
      Solid w ∧ Tight rest ∧ ∃ gap, gap ≠ [] ∧ Blanks gap ∧ t = w ++ gap ++ rest := by
  constructor
  · rintro ⟨r, cut, rfl⟩
    obtain ⟨solid, c, blank, rfl⟩ := cutAtBlank_eq_some_iff.1 cut
    obtain ⟨tight_rest, front, back, split, front_blank, back_blank⟩ := stripped_trim r
    have none_behind : back = [] := by
      have whole : Tight ((w ++ c :: (front ++ trim r)) ++ back) := by
        rwa [List.append_assoc, List.cons_append, ← split]
      exact whole.back_eq_nil back_blank
    rw [none_behind, List.append_nil] at split
    refine ⟨solid, tight_rest, c :: front, by simp, List.forall_mem_cons.2 ⟨blank, front_blank⟩, ?_⟩
    rw [List.append_assoc, List.cons_append, ← split]
  · rintro ⟨solid, tight_rest, gap, ne_nil, blanks, rfl⟩
    cases gap with
    | nil => exact absurd rfl ne_nil
    | cons c gap =>
      obtain ⟨blank, blanks⟩ := List.forall_mem_cons.1 blanks
      refine ⟨gap ++ rest, cutAtBlank_eq_some_iff.2 ⟨solid, c, blank, by simp⟩, ?_⟩
      exact Stripped.eq_trim ⟨tight_rest, gap, [], by simp, blanks, nofun⟩

/-- Behind the first white space in a text, more follows than white space. -/
theorem Tight.rest_ne_nil {r : List Char} (tight : Tight t) (cut : cutAtBlank t = some (w, r)) :
    trim r ≠ [] := by
  obtain ⟨-, -, gap, gap_ne_nil, blanks, rfl⟩ := (exists_cut_iff tight).1 ⟨r, cut, rfl⟩
  intro none
  rw [none, List.append_nil] at tight
  exact gap_ne_nil (tight.back_eq_nil blanks)

/-! ## Words -/

theorem words_append_cons {c : Char} (h : isBlank c = true) (cs ds : List Char) :
    words (cs ++ c :: ds) = words cs ++ words ds := by
  unfold words
  rw [List.splitOnP_append_cons _ _ h, List.filter_append]

@[simp] theorem words_nil : words [] = [] := rfl

theorem words_blanks_append (h : Blanks gap) (cs : List Char) : words (gap ++ cs) = words cs := by
  induction gap with
  | nil => rfl
  | cons c gap ih =>
    obtain ⟨blank, blanks⟩ := List.forall_mem_cons.1 h
    exact (words_append_cons blank [] (gap ++ cs)).trans (ih blanks)

/-- White space parts the words before it from those after it. -/
theorem words_append_blanks_append (ne_nil : gap ≠ []) (h : Blanks gap) (cs ds : List Char) :
    words (cs ++ gap ++ ds) = words cs ++ words ds := by
  cases gap with
  | nil => exact absurd rfl ne_nil
  | cons c gap =>
    obtain ⟨blank, blanks⟩ := List.forall_mem_cons.1 h
    rw [List.append_assoc, List.cons_append, words_append_cons blank, words_blanks_append blanks]

theorem words_append_blanks (h : Blanks gap) (cs : List Char) : words (cs ++ gap) = words cs := by
  by_cases none : gap = []
  · rw [none, List.append_nil]
  · have parted := words_append_blanks_append none h cs []
    rwa [List.append_nil, words_nil, List.append_nil] at parted

theorem Stripped.words_eq (h : Stripped cs t) : words cs = words t := by
  obtain ⟨-, front, back, rfl, front_blank, back_blank⟩ := h
  rw [words_append_blanks back_blank, words_blanks_append front_blank]

theorem words_trim (cs : List Char) : words (trim cs) = words cs :=
  (stripped_trim cs).words_eq.symm

theorem IsWord.words_eq (h : IsWord w) : words w = [w] := by
  unfold words
  rw [List.splitOnP_eq_singleton h.solid]
  simp [h.ne_nil]

/-- A text is made of its words and of no others. -/
theorem Spaced.words_eq (h : Spaced ws t) (all : ∀ w ∈ ws, IsWord w) : words t = ws := by
  induction h with
  | one w => exact (all w List.mem_cons_self).words_eq
  | @more w gap t ws ne_nil blanks rest ih =>
    obtain ⟨word, others⟩ := List.forall_mem_cons.1 all
    rw [words_append_blanks_append ne_nil blanks, word.words_eq, ih others]
    rfl

theorem Tight.spaced_words (tight : Tight t) (ne_nil : t ≠ []) :
    Spaced (words t) t ∧ ∀ w ∈ words t, IsWord w := by
  -- on the length: what is left behind the first word has lost white space at its front too
  generalize hn : t.length = n
  induction n using Nat.strongRecOn generalizing t with
  | ind n ih =>
    subst hn
    cases cut : cutAtBlank t with
    | none =>
      have word : IsWord t := ⟨ne_nil, cutAtBlank_eq_none_iff.1 cut⟩
      rw [word.words_eq]
      exact ⟨.one t, fun w hw => List.mem_singleton.1 hw ▸ word⟩
    | some parts =>
      obtain ⟨w, r⟩ := parts
      obtain ⟨solid, tight_rest, gap, gap_ne_nil, blanks, rfl⟩ :=
        (exists_cut_iff tight).1 ⟨r, cut, rfl⟩
      have word : IsWord w := by
        refine ⟨fun none => ?_, solid⟩
        rw [none, List.nil_append] at tight
        exact gap_ne_nil (tight.front_eq_nil blanks)
      have rest_ne_nil := tight.rest_ne_nil cut
      have shorter : (trim r).length < (w ++ gap ++ trim r).length := by
        have := List.length_pos_iff.2 gap_ne_nil
        simp only [List.length_append]
        omega
      obtain ⟨spaced, all⟩ := ih _ shorter tight_rest rest_ne_nil rfl
      rw [words_append_blanks_append gap_ne_nil blanks, word.words_eq]
      exact ⟨.more gap_ne_nil blanks spaced, List.forall_mem_cons.2 ⟨word, all⟩⟩

theorem Tight.spaced_iff (tight : Tight t) (ne_nil : ws ≠ []) (all : ∀ w ∈ ws, IsWord w) :
    Spaced ws t ↔ words t = ws := by
  constructor
  · exact fun spaced => spaced.words_eq all
  · rintro rfl
    refine (tight.spaced_words ?_).1
    rintro rfl
    exact ne_nil rfl

theorem spaced_one_iff : Spaced [w] t ↔ t = w := by
  constructor
  · intro h
    cases h with
    | one => rfl
    | more _ _ rest => cases rest
  · rintro rfl
    exact .one t

theorem Tight.of_append (h : Tight (cs ++ t))
    (head : ∀ c, t.head? = some c → isBlank c = false) : Tight t := by
  refine ⟨head, fun c hc => h.last c ?_⟩
  rw [List.getLast?_append, hc]
  rfl

theorem Spaced.prefix (h : Spaced (w :: ws) t) : w <+: t := by
  cases h with
  | one => exact List.prefix_rfl
  | more =>
    rw [List.append_assoc]
    exact List.prefix_append ..

/-- A text of several pieces is cut behind the first of them, if that has no white space in it. -/
theorem Tight.spaced_cons_iff {first : List Char} (tight : Tight t) (solid : Solid first)
    (tight_next : Tight w) (next_ne_nil : w ≠ []) :
    Spaced (first :: w :: ws) t ↔
      ∃ r, cutAtBlank t = some (first, r) ∧ Spaced (w :: ws) (trim r) := by
  constructor
  · intro h
    cases h with
    | @more _ gap rest _ gap_ne_nil blanks spaced =>
      obtain ⟨more, rfl⟩ := spaced.prefix
      have tight_rest : Tight (w ++ more) := by
        refine tight.of_append fun c hc => tight_next.head c ?_
        rwa [List.head?_append, Option.or_of_isSome (List.isSome_head?.2 next_ne_nil)] at hc
      obtain ⟨r, cut, rest⟩ :=
        (exists_cut_iff tight).2 ⟨solid, tight_rest, gap, gap_ne_nil, blanks, rfl⟩
      exact ⟨r, cut, rest ▸ spaced⟩
  · rintro ⟨r, cut, spaced⟩
    obtain ⟨-, -, gap, gap_ne_nil, blanks, rfl⟩ := (exists_cut_iff tight).1 ⟨r, cut, rfl⟩
    exact .more gap_ne_nil blanks spaced

/-- A text of several words is cut behind the first of them, and the others are the words of what
follows. -/
theorem Tight.spaced_words_iff {first : List Char} (tight : Tight t) (solid : Solid first)
    (all : ∀ v ∈ w :: ws, IsWord v) :
    Spaced (first :: w :: ws) t ↔
      ∃ r, cutAtBlank t = some (first, r) ∧ words (trim r) = w :: ws := by
  have word := (List.forall_mem_cons.1 all).1
  rw [tight.spaced_cons_iff solid word.solid.tight word.ne_nil]
  refine exists_congr fun r => and_congr_right fun _ => ?_
  exact (stripped_trim r).tight.spaced_iff (List.cons_ne_nil _ _) all

end BoxOffice.Text
