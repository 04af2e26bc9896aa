import BoxOffice.Path
/-!
# Names in paths

A path `Names` a file when it is made of the path of a directory, the name of the file in it and a tail
of slashes and `.` steps.  `Path.cut` finds these parts, whatever the tail is (`cut_of_bytes`), so a
path has a file name just when it names a file (`fileName?_eq_some_iff`), and an extension just when
that name is a stem, a dot and the extension (`extension?_eq_some_iff`).

`withExtension_of_names` says what becomes of a path whose extension is replaced: all is as it should
be, but for a name whose stem is a single dot and that ends the path.
-/

namespace BoxOffice

namespace Path

/-! ## Lists of bytes, cut at the last separator -/

variable {sep : UInt8} {xs ys : List UInt8}

/-- Read backwards, the list is cut in front of the first separator. -/
theorem cut_backwards (h : sep ∉ ys) (hx : xs = [] ∨ ∃ front, xs = front ++ [sep]) :
    (ys.reverse ++ xs.reverse).takeWhile (· ≠ sep) = ys.reverse ∧
      (ys.reverse ++ xs.reverse).dropWhile (· ≠ sep) = xs.reverse := by
  have none_here : ∀ b ∈ ys.reverse, decide (b ≠ sep) = true := by
    intro b hb
    exact decide_eq_true fun same => h (same ▸ List.mem_reverse.1 hb)
  rw [List.takeWhile_append_of_pos none_here, List.dropWhile_append_of_pos none_here]
  rcases hx with rfl | ⟨front, rfl⟩
  · exact ⟨List.append_nil _, rfl⟩
  · rw [List.reverse_append, List.reverse_singleton, List.singleton_append,
      List.takeWhile_cons_of_neg (by simp), List.dropWhile_cons_of_neg (by simp)]
    exact ⟨List.append_nil _, rfl⟩

/-- What stands behind the first separator, and what in front of it. -/
theorem exists_cut_backwards (sep : UInt8) (back : List UInt8) :
    sep ∉ back.takeWhile (· ≠ sep) ∧
      (back.dropWhile (· ≠ sep) = [] ∨ ∃ bs, back.dropWhile (· ≠ sep) = sep :: bs) := by
  constructor
  · intro mem
    have other := List.all_eq_true.1 List.all_takeWhile sep mem
    simp at other
  · have stop := List.head?_dropWhile_not (· ≠ sep) back
    cases left : back.dropWhile (· ≠ sep) with
    | nil => exact .inl rfl
    | cons b bs =>
      rw [left] at stop
      have same : b = sep := by simpa using stop
      exact .inr ⟨bs, by rw [same]⟩

/-! ## Tails -/

/-- Slashes and `.` steps: what may stand behind a file's name. -/
inductive Idle : List UInt8 → Prop where
  | nil : Idle []
  | slash {tail : List UInt8} : Idle tail → Idle (slash :: tail)
  | step {tail : List UInt8} : Idle tail → Idle (slash :: dot :: tail)

variable {tail parent name stem ext : List UInt8}

theorem Idle.append (h : Idle xs) (hy : Idle ys) : Idle (xs ++ ys) := by
  induction h with
  | nil => exact hy
  | slash _ ih => exact ih.slash
  | step _ ih => exact ih.step

theorem Idle.take (h : Idle tail) (n : Nat) : Idle (tail.take n) := by
  induction h generalizing n with
  | nil => rw [List.take_nil]; exact .nil
  | slash _ ih =>
    cases n with
    | zero => exact .nil
    | succ n => exact (ih n).slash
  | step _ ih =>
    cases n with
    | zero => exact .nil
    | succ n =>
      cases n with
      | zero => exact Idle.nil.slash
      | succ n => exact (ih n).step

theorem withoutTail_slash (bs : List UInt8) : withoutTail (slash :: bs) = withoutTail bs := by
  rw [withoutTail.eq_def]
  exact if_pos rfl

theorem withoutTail_step (bs : List UInt8) : withoutTail (dot :: slash :: bs) = withoutTail bs := by
  rw [withoutTail.eq_def]
  dsimp only
  rw [if_neg (by decide), if_pos rfl, if_pos rfl]

theorem withoutTail_of_idle (h : Idle tail) (back : List UInt8) :
    withoutTail (tail.reverse ++ back) = withoutTail back := by
  induction h generalizing back with
  | nil => rfl
  | slash _ ih =>
    rw [List.reverse_cons, List.append_assoc, ih]
    exact withoutTail_slash back
  | step _ ih =>
    rw [List.reverse_cons, List.reverse_cons, List.append_assoc, List.append_assoc, ih]
    exact withoutTail_step back

/-- What is taken off is a tail. -/
theorem exists_idle (back : List UInt8) :
    ∃ tail, Idle tail ∧ back = tail.reverse ++ withoutTail back := by
  fun_induction withoutTail back with
  | case1 | case3 | case5 | case6 => exact ⟨[], .nil, rfl⟩
  | case2 bs ih =>
    obtain ⟨tail, idle, split⟩ := ih
    refine ⟨tail ++ [slash], idle.append Idle.nil.slash, ?_⟩
    rw [List.reverse_append, List.append_assoc, ← split]
    rfl
  | case4 other cs ih =>
    obtain ⟨tail, idle, split⟩ := ih
    refine ⟨tail ++ [slash, dot], idle.append Idle.nil.step, ?_⟩
    rw [List.reverse_append, List.append_assoc, ← split]
    rfl

/-- A last component that is not a `.` step is no part of the tail. -/
theorem withoutTail_of_component (some : name ≠ []) (noStep : name ≠ [dot]) (whole : slash ∉ name)
    (back : List UInt8) : withoutTail (name.reverse ++ back) = name.reverse ++ back := by
  obtain rfl | ⟨front, b, rfl⟩ := List.eq_nil_or_concat name
  · exact absurd rfl some
  rw [List.concat_eq_append] at noStep whole ⊢
  rw [List.reverse_concat, List.cons_append, withoutTail.eq_def]
  dsimp only
  have hb : b ≠ slash := fun same => whole (same ▸ List.mem_append_right front (List.mem_singleton_self b))
  rw [if_neg hb]
  split
  · rename_i same
    obtain rfl | ⟨others, c, rfl⟩ := List.eq_nil_or_concat front
    · exact absurd (congrArg (fun b => [b]) same) noStep
    · rw [List.concat_eq_append] at whole ⊢
      have hc : c ≠ slash := fun same => whole (same ▸ by simp)
      rw [List.reverse_concat, List.cons_append]
      exact if_neg hc
  · rfl

/-! ## Names -/

/-- The path leads to what is called `name` in the directory that the path `parent` leads to. -/
structure Names (p : Path) (parent name tail : List UInt8) : Prop where
  bytes : p.bytes = parent ++ name ++ tail
  folder : parent = [] ∨ ∃ front, parent = front ++ [slash]
  whole : slash ∉ name
  /-- No name, one dot and two dots are not the names of files. -/
  proper : name ≠ [] ∧ name ≠ [dot] ∧ name ≠ [dot, dot]
  idle : Idle tail

variable {p : Path}

/-- Behind the last slash before the tail stands the last component. -/
theorem cut_of_bytes (bytes : p.bytes = parent ++ name ++ tail)
    (folder : parent = [] ∨ ∃ front, parent = front ++ [slash]) (whole : slash ∉ name)
    (some : name ≠ []) (noStep : name ≠ [dot]) (idle : Idle tail) : p.cut = (parent, name) := by
  have back : withoutTail p.bytes.reverse = name.reverse ++ parent.reverse := by
    rw [bytes, List.reverse_append, List.reverse_append, withoutTail_of_idle idle,
      withoutTail_of_component some noStep whole]
  obtain ⟨inFront, behind⟩ := cut_backwards whole folder
  unfold cut
  dsimp only
  rw [back, inFront, behind, List.reverse_reverse, List.reverse_reverse]

theorem Names.cut (h : p.Names parent name tail) : p.cut = (parent, name) :=
  cut_of_bytes h.bytes h.folder h.whole h.proper.1 h.proper.2.1 h.idle

/-- A path has a file name just when it leads to something of that name. -/
theorem fileName?_eq_some_iff :
    p.fileName? = some name ↔ ∃ parent tail, p.Names parent name tail := by
  constructor
  · intro h
    unfold fileName? at h
    dsimp only at h
    split at h
    · cases h
    rename_i proper
    obtain rfl := Option.some.inj h
    obtain ⟨noName, noStep, noParent⟩ := not_or.1 proper |>.imp_right not_or.1
    obtain ⟨tail, idle, split⟩ := exists_idle p.bytes.reverse
    obtain ⟨whole, folder⟩ := exists_cut_backwards slash (withoutTail p.bytes.reverse)
    refine ⟨p.cut.1, tail, ?_, ?_, mt List.mem_reverse.1 whole, ⟨noName, noStep, noParent⟩, idle⟩
    · unfold cut
      dsimp only
      rw [← List.reverse_append, List.takeWhile_append_dropWhile]
      have backwards := congrArg List.reverse split
      rwa [List.reverse_reverse, List.reverse_append, List.reverse_reverse] at backwards
    · rcases folder with none_before | ⟨bs, before⟩
      · exact .inl (congrArg List.reverse none_before)
      · exact .inr ⟨bs.reverse, (congrArg List.reverse before).trans List.reverse_cons⟩
  · rintro ⟨parent, tail, h⟩
    unfold fileName?
    rw [h.cut]
    exact if_neg fun improper => improper.elim h.proper.1 (·.elim h.proper.2.1 h.proper.2.2)

/-! ## Extensions -/

/-- The last dot of a name, if it is not in front, is where its extension begins. -/
theorem cutName_eq_some_iff :
    cutName name = (stem, some ext) ↔ name = stem ++ dot :: ext ∧ stem ≠ [] ∧ dot ∉ ext := by
  constructor
  · intro h
    obtain ⟨noDot, -⟩ := exists_cut_backwards dot name.reverse
    have all : name.reverse.takeWhile (· ≠ dot) ++ name.reverse.dropWhile (· ≠ dot) = name.reverse :=
      List.takeWhile_append_dropWhile
    unfold cutName at h
    dsimp only at h
    split at h
    · cases h
    rename_i b stemBack behind
    split at h
    · cases h
    rename_i some_left
    obtain ⟨rfl, rfl⟩ := Prod.mk.inj h |>.imp_right Option.some.inj
    obtain rfl : b = dot := by
      have stop := List.head?_dropWhile_not (· ≠ dot) name.reverse
      rw [behind] at stop
      simpa using stop
    rw [behind] at all
    refine ⟨?_, mt List.reverse_eq_nil_iff.1 some_left, mt List.mem_reverse.1 noDot⟩
    have forwards := congrArg List.reverse all
    rw [List.reverse_reverse, List.reverse_append, List.reverse_cons, List.append_assoc] at forwards
    exact forwards.symm
  · rintro ⟨rfl, some_left, noDot⟩
    have back : (stem ++ dot :: ext).reverse = ext.reverse ++ (stem ++ [dot]).reverse := by
      rw [← List.reverse_append, List.append_assoc, List.singleton_append]
    obtain ⟨inFront, behind⟩ := cut_backwards noDot (.inr ⟨stem, rfl⟩)
    unfold cutName
    dsimp only
    rw [back, inFront, behind, List.reverse_concat]
    dsimp only
    rw [if_neg (mt List.reverse_eq_nil_iff.1 some_left), List.reverse_reverse, List.reverse_reverse]

theorem extension?_eq_some_iff :
    p.extension? = some ext ↔
      ∃ parent stem tail, p.Names parent (stem ++ dot :: ext) tail ∧ stem ≠ [] ∧ dot ∉ ext := by
  unfold extension?
  rw [Option.bind_eq_some_iff]
  constructor
  · rintro ⟨name, named, ending⟩
    obtain ⟨parent, tail, names⟩ := fileName?_eq_some_iff.1 named
    obtain ⟨stem, front⟩ : ∃ stem, (cutName name).1 = stem := ⟨_, rfl⟩
    obtain ⟨rfl, some_left, noDot⟩ := cutName_eq_some_iff.1 (Prod.ext front ending)
    exact ⟨parent, stem, tail, names, some_left, noDot⟩
  · rintro ⟨parent, stem, tail, names, some_left, noDot⟩
    refine ⟨_, fileName?_eq_some_iff.2 ⟨parent, tail, names⟩, ?_⟩
    rw [cutName_eq_some_iff.2 ⟨rfl, some_left, noDot⟩]

variable {new : List UInt8}

/-- A stem, a dot and something more are too long for one dot, and are two dots only if the stem is a
dot and the something is nothing. -/
theorem proper_of_stem (some_left : stem ≠ []) (h : ¬(stem = [dot] ∧ ext = [])) :
    stem ++ dot :: ext ≠ [] ∧ stem ++ dot :: ext ≠ [dot] ∧ stem ++ dot :: ext ≠ [dot, dot] := by
  cases stem with
  | nil => exact absurd rfl some_left
  | cons b others =>
    refine ⟨List.cons_ne_nil _ _, ?_, ?_⟩
    · intro same
      exact List.append_ne_nil_of_right_ne_nil others (List.cons_ne_nil _ _) (List.cons.inj same).2
    · intro same
      obtain ⟨rfl, rest⟩ := List.cons.inj same
      cases others with
      | nil => exact h ⟨rfl, (List.cons.inj rest).2⟩
      | cons c others =>
        exact List.append_ne_nil_of_right_ne_nil others (List.cons_ne_nil _ _)
          (List.cons.inj rest).2

/-- What stands behind the last dot of the name goes, and so does the tail. -/
theorem extend_of_names (h : p.Names parent (stem ++ dot :: ext) tail) (some_left : stem ≠ [])
    (noDot : dot ∉ ext) : p.extend new = ⟨parent ++ stem ++ dot :: new⟩ := by
  have named : p.stem? = some stem := by
    unfold stem?
    rw [fileName?_eq_some_iff.2 ⟨parent, tail, h⟩, Option.map_some,
      cutName_eq_some_iff.2 ⟨rfl, some_left, noDot⟩]
  unfold extend
  rw [named, h.cut]

/-- Two dots are the directory above, and no file. -/
theorem fileName?_of_parent (folder : parent = [] ∨ ∃ front, parent = front ++ [slash]) :
    fileName? ⟨parent ++ [dot, dot]⟩ = none := by
  have parts : cut ⟨parent ++ [dot, dot]⟩ = (parent, [dot, dot]) :=
    cut_of_bytes (List.append_nil _).symm folder (by decide) (by decide) (by decide) .nil
  unfold fileName?
  rw [parts]
  rfl

/-- As many bytes as the extension has are cut off the path: they are the tail's, as far as it goes. -/
theorem Names.take_bytes (h : p.Names parent (stem ++ dot :: ext) tail) :
    p.bytes.take (p.bytes.length - ext.length) =
      parent ++ (stem ++ dot :: ext.take tail.length) ++ tail.take (tail.length - ext.length) := by
  have front : p.bytes = parent ++ stem ++ [dot] ++ (ext ++ tail) := by
    rw [h.bytes]
    simp only [List.append_assoc, List.cons_append, List.nil_append]
  have left : p.bytes.length - ext.length = (parent ++ stem ++ [dot]).length + tail.length := by
    rw [front]
    simp only [List.length_append]
    omega
  rw [left, front, List.take_length_add_append, List.take_append]
  simp only [List.append_assoc, List.cons_append, List.nil_append]

/-- What is left when so many bytes are cut off still leads to the stem and a dot, unless it ends there
and the stem is a dot too. -/
theorem Names.cut_off (h : p.Names parent (stem ++ dot :: ext) tail) (some_left : stem ≠ [])
    (others : ¬(stem = [dot] ∧ tail = [])) :
    Names ⟨p.bytes.take (p.bytes.length - ext.length)⟩ parent (stem ++ dot :: ext.take tail.length)
      (tail.take (tail.length - ext.length)) where
  bytes := h.take_bytes
  folder := h.folder
  whole := by
    intro mem
    refine h.whole ?_
    rcases List.mem_append.1 mem with mem | mem
    · exact List.mem_append_left _ mem
    · rcases List.mem_cons.1 mem with same | mem
      · cases same
      · exact List.mem_append_right _ (List.mem_cons_of_mem _ (List.mem_of_mem_take mem))
  proper := by
    refine proper_of_stem some_left ?_
    rintro ⟨rfl, nothing⟩
    rcases List.take_eq_nil_iff.1 nothing with none_behind | none_left
    · exact others ⟨rfl, List.eq_nil_of_length_eq_zero none_behind⟩
    · rw [none_left] at h
      exact h.proper.2.2 rfl
  idle := h.idle.take _

/-- An extension is replaced at its place, although it is cut off by its length at the end of the path.
Only where that leaves two dots, the path does not lead to a file any more. -/
theorem withExtension_of_names (h : p.Names parent (stem ++ dot :: ext) tail) (some_left : stem ≠ [])
    (noDot : dot ∉ ext) :
    p.withExtension new =
      if stem = [dot] ∧ tail = [] then ⟨parent ++ [dot, dot]⟩
      else ⟨parent ++ stem ++ dot :: new⟩ := by
  unfold withExtension
  rw [extension?_eq_some_iff.2 ⟨parent, stem, tail, h, some_left, noDot⟩]
  dsimp only
  split
  · rename_i dots
    obtain ⟨rfl, rfl⟩ := dots
    have left := h.take_bytes
    rw [List.length_nil, List.take_zero, List.take_nil, List.append_nil] at left
    rw [left]
    show extend ⟨parent ++ [dot, dot]⟩ new = _
    unfold extend stem?
    rw [fileName?_of_parent h.folder]
    rfl
  · rename_i others
    exact extend_of_names (h.cut_off some_left others) some_left (mt List.mem_of_mem_take noDot)

end Path

end BoxOffice
