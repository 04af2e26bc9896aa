/-!
# White space and words

`isBlank` holds of the 25 code points with the Unicode property `White_Space`.  On a list of
characters:

* `trim` drops blanks at both ends;
* `cutAtBlank` cuts a text in two at its first blank;
* `words` lists the maximal runs of characters that are not blank, in order.
-/

namespace BoxOffice.Text

/-- The characters with the Unicode property `White_Space`. -/
def isBlank (c : Char) : Bool :=
  let n := c.toNat
  (0x9 ≤ n && n ≤ 0xD) || n == 0x20 || n == 0x85 || n == 0xA0 || n == 0x1680 ||
    (0x2000 ≤ n && n ≤ 0x200A) || n == 0x2028 || n == 0x2029 || n == 0x202F || n == 0x205F ||
    n == 0x3000

def trimFront (cs : List Char) : List Char := cs.dropWhile isBlank

def trimBack (cs : List Char) : List Char := (cs.reverse.dropWhile isBlank).reverse

def trim (cs : List Char) : List Char := trimBack (trimFront cs)

/-- The text before and the text after the first blank; `none` when there is no blank. -/
def cutAtBlank : List Char → Option (List Char × List Char)
  | [] => none
  | c :: cs => if isBlank c then some ([], cs) else (cutAtBlank cs).map fun p => (c :: p.1, p.2)

/-- The text before and the text after the first `mark`; `none` when it does not occur. -/
def cutAt (mark : Char) : List Char → Option (List Char × List Char)
  | [] => none
  | c :: cs => if c = mark then some ([], cs) else (cutAt mark cs).map fun p => (c :: p.1, p.2)

/-- The maximal runs of characters that are not blank, in order. -/
def words (cs : List Char) : List (List Char) := (cs.splitOnP isBlank).filter (!·.isEmpty)

/-! ## Small laws -/

/-- The two parts around a cut, with the mark between them, are the text. -/
theorem cutAt_eq_some {mark : Char} {cs a b : List Char} (h : cutAt mark cs = some (a, b)) :
    cs = a ++ mark :: b ∧ mark ∉ a := by
  induction cs generalizing a b with
  | nil => simp [cutAt] at h
  | cons c cs ih =>
    simp only [cutAt] at h
    split at h
    · rename_i hc
      simp only [Option.some.injEq, Prod.mk.injEq] at h
      obtain ⟨rfl, rfl⟩ := h
      exact ⟨by rw [hc]; rfl, by simp⟩
    · rename_i hc
      obtain ⟨⟨a', b'⟩, h1, h2⟩ := Option.map_eq_some_iff.1 h
      simp only [Prod.mk.injEq] at h2
      obtain ⟨rfl, rfl⟩ := h2
      obtain ⟨rfl, hn⟩ := ih h1
      exact ⟨rfl, by simp only [List.mem_cons, not_or]; exact ⟨fun he => hc he.symm, hn⟩⟩

end BoxOffice.Text
