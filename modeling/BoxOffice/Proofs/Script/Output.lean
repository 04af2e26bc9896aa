import BoxOffice.Proofs.Path
import BoxOffice.Script.Output
/-!
# Beside the script

A script has an output when its path leads to a stem and `.jobs`, and then the output is `.out` behind
the same stem in the same directory (`outputPath_of_names`), so scripts of different names never share
one.  There is one exception: of a path that ends in `..jobs`, the name whose stem is a single dot,
only `..` is left, which leads to no file at all (`outputPath_of_two_dots`).

Main statement: `outputPath_beside`.
-/

namespace BoxOffice

open BoxOffice.Path

variable {p out : Path} {parent stem tail : List UInt8}

theorem outputPath_of_names (h : p.Names parent (stem ++ dot :: scriptExtension) tail)
    (some_left : stem ≠ []) :
    outputPath p = .ok (if stem = [dot] ∧ tail = [] then ⟨parent ++ [dot, dot]⟩
      else ⟨parent ++ stem ++ dot :: outputExtension⟩) := by
  have noDot : dot ∉ scriptExtension := by decide +kernel
  unfold outputPath
  rw [if_pos (extension?_eq_some_iff.2 ⟨parent, stem, tail, h, some_left, noDot⟩),
    withExtension_of_names h some_left noDot]

/-- Only what leads to a stem and `.jobs` has an output. -/
theorem exists_names (h : outputPath p = .ok out) :
    ∃ parent stem tail, p.Names parent (stem ++ dot :: scriptExtension) tail ∧ stem ≠ [] := by
  unfold outputPath at h
  split at h
  · rename_i ending
    obtain ⟨parent, stem, tail, names, some_left, -⟩ := extension?_eq_some_iff.1 ending
    exact ⟨parent, stem, tail, names, some_left⟩
  · cases h

theorem stem_ne_nil (h : p.Names parent (stem ++ dot :: scriptExtension) tail)
    (made : outputPath p = .ok out) : stem ≠ [] := by
  obtain ⟨parent', stem', tail', h', some_left⟩ := exists_names made
  have called := fileName?_eq_some_iff.2 ⟨parent, tail, h⟩
  rw [fileName?_eq_some_iff.2 ⟨parent', tail', h'⟩] at called
  rwa [← List.append_cancel_right (Option.some.inj called)]

/-- The output leads to the stem and `.out`, where the script leads to the stem and `.jobs`. -/
theorem names_output (h : p.Names parent (stem ++ dot :: scriptExtension) tail)
    (some_left : stem ≠ []) :
    Names ⟨parent ++ stem ++ dot :: outputExtension⟩ parent (stem ++ dot :: outputExtension) [] where
  bytes := by rw [List.append_nil, List.append_assoc]
  folder := h.folder
  whole := by
    intro mem
    rcases List.mem_append.1 mem with mem | mem
    · exact h.whole (List.mem_append_left _ mem)
    · exact absurd mem (by decide +kernel)
  proper := proper_of_stem some_left fun nothing => absurd nothing.2 (by decide +kernel)
  idle := .nil

/-- What an output is called. -/
theorem fileName?_output (h : p.Names parent (stem ++ dot :: scriptExtension) tail)
    (some_left : stem ≠ []) (made : outputPath p = .ok out) :
    out.fileName? =
      if stem = [dot] ∧ tail = [] then none else some (stem ++ dot :: outputExtension) := by
  rw [outputPath_of_names h some_left] at made
  cases made
  split
  · exact fileName?_of_parent h.folder
  · exact fileName?_eq_some_iff.2 ⟨parent, [], names_output h some_left⟩

/-- An output is no script itself: its extension is another. -/
theorem outputPath_of_output (made : outputPath p = .ok out) :
    outputPath out = .error (.scriptPath out) := by
  obtain ⟨parent, stem, tail, names, some_left⟩ := exists_names made
  have called := fileName?_output names some_left made
  refine if_neg fun script => ?_
  obtain ⟨parent', stem', tail', names', some_left', noDot⟩ := extension?_eq_some_iff.1 script
  rw [fileName?_eq_some_iff.2 ⟨parent', tail', names'⟩] at called
  split at called
  · cases called
  · have endings := congrArg cutName (Option.some.inj called)
    rw [cutName_eq_some_iff.2 ⟨rfl, some_left', noDot⟩,
      cutName_eq_some_iff.2 ⟨rfl, some_left, by decide +kernel⟩] at endings
    exact absurd (Option.some.inj (congrArg Prod.snd endings)) (by decide +kernel)

/-- What an output is called tells what its script is called. -/
theorem fileName?_eq_of_output {q out' : Path} (made : outputPath p = .ok out)
    (made' : outputPath q = .ok out') (same : out.fileName? = out'.fileName?) :
    p.fileName? = q.fileName? := by
  obtain ⟨parent, stem, tail, names, some_left⟩ := exists_names made
  obtain ⟨parent', stem', tail', names', some_left'⟩ := exists_names made'
  rw [fileName?_output names some_left made, fileName?_output names' some_left' made'] at same
  have stems : stem = stem' := by
    split at same
    · rename_i dots
      split at same
      · rename_i dots'
        rw [dots.1, dots'.1]
      · cases same
    · split at same
      · cases same
      · exact List.append_cancel_right (Option.some.inj same)
  rw [fileName?_eq_some_iff.2 ⟨parent, tail, names⟩,
    fileName?_eq_some_iff.2 ⟨parent', tail', names'⟩, stems]

/-- **The output stands beside its script.**  A path has an output just when it leads to a file that is
called by a stem, at least one byte long, and `.jobs`.  The output is then the file that is called by the
same stem and `.out` in the same directory, unless the stem is a single dot and ends the path with its
extension: then the output is the directory above, and no file.  In no case is an output itself a
script, and scripts of different names have outputs of different names. -/
theorem outputPath_beside (p : Path) :
    ((∃ out, outputPath p = .ok out) ↔ ∃ parent stem tail,
      p.Names parent (stem ++ dot :: scriptExtension) tail ∧ stem ≠ []) ∧
    (∀ parent stem tail out, p.Names parent (stem ++ dot :: scriptExtension) tail →
      outputPath p = .ok out →
      if stem = [dot] ∧ tail = [] then out = ⟨parent ++ [dot, dot]⟩ ∧ out.fileName? = none
      else out.Names parent (stem ++ dot :: outputExtension) []) ∧
    (∀ out, outputPath p = .ok out → outputPath out = .error (.scriptPath out)) ∧
    ∀ q out out', outputPath p = .ok out → outputPath q = .ok out' →
      p.fileName? ≠ q.fileName? → out.fileName? ≠ out'.fileName? := by
  refine ⟨⟨fun ⟨out, made⟩ => exists_names made, ?_⟩, ?_, ?_, ?_⟩
  · rintro ⟨parent, stem, tail, names, some_left⟩
    exact ⟨_, outputPath_of_names names some_left⟩
  · intro parent stem tail out names made
    have some_left := stem_ne_nil names made
    have called := fileName?_output names some_left made
    rw [outputPath_of_names names some_left] at made
    split
    · rename_i dots
      rw [if_pos dots] at called made
      cases made
      exact ⟨rfl, called⟩
    · rename_i others
      rw [if_neg others] at made
      cases made
      exact names_output names some_left
  · exact fun out made => outputPath_of_output made
  · exact fun q out out' made made' => mt (fileName?_eq_of_output made made')

/-- The exception at its shortest: the path is of the right form, and no file is left to write to. -/
theorem outputPath_of_two_dots :
    (ofString "..jobs").Names [] ([dot] ++ dot :: scriptExtension) [] ∧
      outputPath (ofString "..jobs") = .ok (ofString "..") ∧
      ¬∃ parent name tail, (ofString "..").Names parent name tail := by
  have names : (ofString "..jobs").Names [] ([dot] ++ dot :: scriptExtension) [] :=
    ⟨by decide +kernel, .inl rfl, by decide +kernel, by decide +kernel, .nil⟩
  have above : ofString ".." = ⟨[dot, dot]⟩ := by decide +kernel
  refine ⟨names, ?_, ?_⟩
  · rw [outputPath_of_names names (by decide), above]
    rfl
  rw [above]
  rintro ⟨parent, name, tail, names⟩
  have named := fileName?_eq_some_iff.2 ⟨parent, tail, names⟩
  have nameless : fileName? ⟨[dot, dot]⟩ = none := fileName?_of_parent (.inl rfl)
  rw [nameless] at named
  cases named

end BoxOffice
