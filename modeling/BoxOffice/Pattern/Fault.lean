/-!
# What can be wrong with a pattern

A pattern is a regular expression that notes are searched with.  A `Fault` is a reason to refuse one,
and `Fault.text` is how a user is told of it: the pattern is shown, line by line when it has several,
and the characters that are to blame are marked from below.
-/

namespace BoxOffice.Pattern

/-- The characters from the one at `start` to before the one at `stop`, counted from 0. -/
structure Span where
  start : Nat
  stop : Nat
  deriving DecidableEq, Repr

/-- No character, before the one at a place. -/
def Span.here (place : Nat) : Span := { start := place, stop := place }

def Span.one (place : Nat) : Span := { start := place, stop := place + 1 }

inductive Flaw where
  | lookAround
  | backReference
  | classEscape
  | rangeBackwards
  | rangeBoundary
  | classUnclosed
  | digitsInvalid
  | hexEmpty
  | hexNoCharacter
  | hexDigit
  | escapeUnfinished
  | escapeUnknown
  | propertyEscaped
  | edgeUnclosed
  | edgeUnknown
  | edgeOrCountUnfinished
  | flagDangling
  | flagMissing
  | flagRepeated
  | flagUnknown
  | dashRepeated
  | nameEmpty
  | nameInvalid
  | nameRepeated
  | nameUnclosed
  | groupUnclosed
  | groupUnopened
  | countBackwards
  | countEmpty
  | countUnclosed
  | nothingToRepeat
  /-- More parts stand within each other than are allowed. -/
  | tooDeep (limit : Nat)
  /-- Both cases of a letter are asked for, but only of ASCII letters are both known. -/
  | caseUnknown
  /-- A kind of characters, such as the digits, is asked for beyond ASCII. -/
  | kindUnknown
  | propertyUnknown
  | propertyValueUnknown
  /-- A character beyond ASCII, or a property of characters, stands where bytes are looked for. -/
  | notAscii
  /-- It may stand for bytes that are not text. -/
  | notText
  deriving DecidableEq, Repr

def Flaw.message : Flaw → String
  | .lookAround => "look-around, including look-ahead and look-behind, is not supported"
  | .backReference => "backreferences are not supported"
  | .classEscape => "invalid escape sequence found in character class"
  | .rangeBackwards => "invalid character class range, the start must be <= the end"
  | .rangeBoundary => "invalid range boundary, must be a literal"
  | .classUnclosed => "unclosed character class"
  | .digitsInvalid => "decimal literal invalid"
  | .hexEmpty => "hexadecimal literal empty"
  | .hexNoCharacter => "hexadecimal literal is not a Unicode scalar value"
  | .hexDigit => "invalid hexadecimal digit"
  | .escapeUnfinished => "incomplete escape sequence, reached end of pattern prematurely"
  | .escapeUnknown => "unrecognized escape sequence"
  | .propertyEscaped => "invalid Unicode character class"
  | .edgeUnclosed =>
    "special word boundary assertion is either unclosed or contains an invalid character"
  | .edgeUnknown =>
    "unrecognized special word boundary assertion, valid choices are: start, end, start-half " ++
      "or end-half"
  | .edgeOrCountUnfinished =>
    "found either the beginning of a special word boundary or a bounded repetition on a \\b with " ++
      "an opening brace, but no closing brace"
  | .flagDangling => "dangling flag negation operator"
  | .flagMissing => "expected flag but got end of regex"
  | .flagRepeated => "duplicate flag"
  | .flagUnknown => "unrecognized flag"
  | .dashRepeated => "flag negation operator repeated"
  | .nameEmpty => "empty capture group name"
  | .nameInvalid => "invalid capture group character"
  | .nameRepeated => "duplicate capture group name"
  | .nameUnclosed => "unclosed capture group name"
  | .groupUnclosed => "unclosed group"
  | .groupUnopened => "unopened group"
  | .countBackwards => "invalid repetition count range, the start must be <= the end"
  | .countEmpty => "repetition quantifier expects a valid decimal"
  | .countUnclosed => "unclosed counted repetition"
  | .nothingToRepeat => "repetition operator missing expression"
  | .tooDeep limit => s!"exceed the maximum number of nested parentheses/brackets ({limit})"
  | .caseUnknown =>
    "Unicode-aware case insensitivity matching is not available (make sure the unicode-case " ++
      "feature is enabled)"
  | .kindUnknown =>
    "Unicode-aware Perl class not found (make sure the unicode-perl feature is enabled)"
  | .propertyUnknown => "Unicode property not found"
  | .propertyValueUnknown => "Unicode property value not found"
  | .notAscii => "Unicode not allowed here"
  | .notText => "pattern can match invalid UTF-8"

structure Misreading where
  flaw : Flaw
  span : Span
  /-- Where the same stands for the first time, if that is what is wrong. -/
  earlier : Option Span := none
  deriving DecidableEq, Repr

inductive Fault where
  | misread (misreading : Misreading)
  /-- What searches with it would take more than so many bytes. -/
  | tooLarge (limit : Nat)
  /-- It asks for the edges of words beyond ASCII. -/
  | wordsUnknown
  deriving DecidableEq, Repr

/-! ## Lines and columns -/

structure Position where
  line : Nat
  column : Nat
  deriving DecidableEq, Repr

def Position.ofPlace (text : List Char) (place : Nat) : Position :=
  let before := text.take place
  { line := before.count '\n' + 1
    column := (before.reverse.takeWhile (· != '\n')).length + 1 }

structure Extent where
  first : Position
  last : Position

def Span.extent (text : List Char) (s : Span) : Extent :=
  { first := .ofPlace text s.start, last := .ofPlace text s.stop }

/-- The lines of a text without what ends them; what follows the last line feed is a line only if it is
not empty. -/
def lines (text : List Char) : List (List Char) :=
  match (text.splitOn '\n').reverse with
  | [] => []
  | last :: ended =>
    let ended := ended.map fun l => if l.getLast? = some '\r' then l.dropLast else l
    ended.reverse ++ if last.isEmpty then [] else [last]

/-! ## Marks -/

def row (n : Nat) (c : Char) : String := .ofList (List.replicate n c)

/-- What is written below a line, from the column behind `done` on, to mark some of its parts; a part
without characters gets one mark. -/
def marks (done : Nat) : List Extent → String
  | [] => ""
  | e :: es =>
    let blank := e.first.column - 1 - done
    let size := max 1 (e.last.column - e.first.column)
    row blank ' ' ++ row size '^' ++ marks (done + blank + size) es

def Misreading.extents (m : Misreading) (text : List Char) : List Extent :=
  (m.earlier.toList ++ [m.span]).map (·.extent text)

/-- The pattern with its marks, line by line.  Lines have numbers if there are several. -/
def Misreading.marked (m : Misreading) (text : List Char) : List String :=
  let rows := lines text
  let count := rows.length + if text.getLast? = some '\n' then 1 else 0
  let width := if count ≤ 1 then 0 else (toString count).length
  let number (n : Nat) : String :=
    if width = 0 then "    "
    else row (width - (toString n).length) ' ' ++ s!"{n}: "
  rows.zipIdx.flatMap fun (l, i) =>
    let here := (m.extents text).filter fun e => e.first.line = i + 1 && e.last.line = i + 1
    [number (i + 1) ++ .ofList l] ++
      if here.isEmpty then [] else [row (if width = 0 then 4 else width + 2) ' ' ++ marks 0 here]

/-- Where the parts are that go over several lines. -/
def Misreading.crossings (m : Misreading) (text : List Char) : List String :=
  ((m.extents text).filter fun e => e.first.line ≠ e.last.line).map fun e =>
    s!"on line {e.first.line} (column {e.first.column}) through line {e.last.line} " ++
      s!"(column {e.last.column - 1})"

def Misreading.text (m : Misreading) (pattern : String) : String :=
  let text := pattern.toList
  let shown :=
    if text.contains '\n' then
      [row 79 '~'] ++ m.marked text ++ [row 79 '~'] ++ m.crossings text
    else m.marked text
  String.intercalate "\n" (["regex parse error:"] ++ shown ++ [s!"error: {m.flaw.message}"])

/-- How a user is told why a pattern is refused. -/
def Fault.text (pattern : String) : Fault → String
  | .misread m => m.text pattern
  | .tooLarge limit => s!"Compiled regex exceeds size limit of {limit} bytes."
  | .wordsUnknown => "error building NFA"

end BoxOffice.Pattern
