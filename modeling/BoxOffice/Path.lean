import BoxOffice.Text.Utf8
/-!
# Paths

A path is a sequence of bytes; it need not be text.  Slashes separate its components, and slashes
and `.` steps at its end name the same file as the path without them.

* `fileName?`: the last component, unless it is `.`, `..` or missing;
* `stem?` and `extension?`: the file name before and after its last dot; a dot at the front of the
  name begins no extension;
* `withExtension`: the path with another extension in the place of its own.
-/

namespace BoxOffice

structure Path where
  bytes : List UInt8
  deriving DecidableEq, Repr, Inhabited

namespace Path

open Text

def slash : UInt8 := 0x2F

def dot : UInt8 := 0x2E

def ofString (text : String) : Path := ⟨Utf8.encode text⟩

/-- The path as text, `none` when it is not UTF-8. -/
def text? (p : Path) : Option String := (Utf8.decode p.bytes).toOption

/-- The path as it is shown to people. -/
def shown (p : Path) : String := Utf8.lossy p.bytes

/-- Given backwards, a path without the slashes and `.` steps at its end. -/
def withoutTail : List UInt8 → List UInt8
  | [] => []
  | b :: bs =>
    if b = slash then withoutTail bs
    else if b = dot then
      match bs with
      | [] => [b]
      | c :: cs => if c = slash then withoutTail cs else b :: c :: cs
    else b :: bs

/-- The last component, whatever it is, and all that stands before it. -/
def cut (p : Path) : List UInt8 × List UInt8 :=
  let back := withoutTail p.bytes.reverse
  ((back.dropWhile (· ≠ slash)).reverse, (back.takeWhile (· ≠ slash)).reverse)

def fileName? (p : Path) : Option (List UInt8) :=
  let name := p.cut.2
  if name = [] ∨ name = [dot] ∨ name = [dot, dot] then none else some name

/-- A file name before and after its last dot.  There is no second part when the name has no dot or
only one at its front. -/
def cutName (name : List UInt8) : List UInt8 × Option (List UInt8) :=
  let back := name.reverse
  match back.dropWhile (· ≠ dot) with
  | [] => (name, none)
  | _ :: stemBack =>
    if stemBack = [] then (name, none)
    else (stemBack.reverse, some (back.takeWhile (· ≠ dot)).reverse)

def stem? (p : Path) : Option (List UInt8) := p.fileName?.map fun name => (cutName name).1

def extension? (p : Path) : Option (List UInt8) := p.fileName?.bind fun name => (cutName name).2

/-- The path with `ext` after the stem of its file name; a path without a file name stays as it is. -/
def extend (p : Path) (ext : List UInt8) : Path :=
  match p.stem? with
  | none => p
  | some stem => ⟨p.cut.1 ++ stem ++ dot :: ext⟩

/-- The path with its extension replaced by `ext`.  The old one is taken off by its length alone, at
the very end of the path; what is left may be a path without a file name, to which nothing is added. -/
def withExtension (p : Path) (ext : List UInt8) : Path :=
  match p.extension? with
  | none => p.extend ext
  | some old => extend ⟨p.bytes.take (p.bytes.length - old.length)⟩ ext

/-- The components between slashes, those that say nothing left out. -/
def components (p : Path) : List (List UInt8) :=
  (p.bytes.splitOn slash).filter fun c => c ≠ [] ∧ c ≠ [dot]

end Path

end BoxOffice
