/-!
# The text of a YAML document

A `Cursor` is a place in a text whose line breaks are normal: `normalise` makes carriage returns and
next-line characters into line feeds, and refuses the characters that no document may hold.  A `Gap`
is the white space between two words; `Gap.folded` is what a scalar that goes on behind it gets for
it.
-/

namespace BoxOffice.Yaml

def isBlank (c : Char) : Bool := c == ' ' || c == '\t'

def isBreak (c : Char) : Bool := c == '\n' || c == '\u2028' || c == '\u2029'

/-- No word goes on here: a blank, a break or the end. -/
def endsWord : List Char → Bool
  | [] => true
  | c :: _ => isBlank c || isBreak c

def isAllowed (c : Char) : Bool :=
  let n := c.toNat
  n == 0x9 || n == 0xA || n == 0xD || (0x20 ≤ n && n ≤ 0x7E) || n == 0x85 ||
    (0xA0 ≤ n && n ≤ 0xD7FF) || (0xE000 ≤ n && n ≤ 0xFFFD) || 0x10000 ≤ n

def breaksNormal : List Char → List Char
  | '\r' :: '\n' :: cs => '\n' :: breaksNormal cs
  | c :: cs => (if c == '\r' || c == '\u0085' then '\n' else c) :: breaksNormal cs
  | [] => []

/-- The text of a document, if all its characters may be there. -/
def normalise (text : String) : Option (List Char) :=
  if text.toList.all isAllowed then some (breaksNormal text.toList) else none

structure Cursor where
  rest : List Char
  line : Nat := 0
  /-- The characters before it on its line. -/
  column : Nat := 0
  /-- The bytes before it. -/
  index : Nat := 0
  deriving Repr

def byteCount (cs : List Char) : Nat := cs.foldl (fun n c => n + c.utf8Size) 0

namespace Cursor

def skip (c : Cursor) (n : Nat := 1) : Cursor :=
  { c with
    rest := c.rest.drop n, column := c.column + n, index := c.index + byteCount (c.rest.take n) }

def skipBreak (c : Cursor) : Cursor :=
  { rest := c.rest.drop 1, line := c.line + 1, column := 0
    index := c.index + byteCount (c.rest.take 1) }

def skipTo (c : Cursor) (rest : List Char) : Cursor := c.skip (c.rest.length - rest.length)

/-- A marker of this character, three times, stands at the front of the line. -/
def atMarker (c : Cursor) (mark : Char) : Bool :=
  c.column == 0 && c.rest.take 3 == [mark, mark, mark] && endsWord (c.rest.drop 3)

/-- A marker between documents stands here. -/
def atBoundary (c : Cursor) : Bool := c.atMarker '-' || c.atMarker '.'

def skipBlanks (c : Cursor) : Cursor := c.skip (c.rest.takeWhile isBlank).length

def skipLine (c : Cursor) : Cursor := c.skip (c.rest.takeWhile (!isBreak ·)).length

end Cursor

structure Gap where
  /-- The blanks before the first break. -/
  blanks : List Char := []
  breaks : List Char := []
  /-- The least column of a tab behind the first break. -/
  tab : Option Nat := none

namespace Gap

def addBlank (g : Gap) (c : Char) (column : Nat) : Gap :=
  if g.breaks.isEmpty then { g with blanks := g.blanks ++ [c] }
  else if c == '\t' then { g with tab := some (min column (g.tab.getD column)) }
  else g

/-- What stands between the words in the value of the scalar: the blanks as they are, a single break
as a space, and of more breaks all but the first. -/
def folded (g : Gap) : List Char :=
  match g.breaks with
  | [] => g.blanks
  | ['\n'] => [' ']
  | '\n' :: breaks => breaks
  | breaks => breaks

end Gap

namespace Cursor

/-- Reads a gap, `n` being the characters that are left. -/
def gapIn : Nat → Gap → Cursor → Gap × Cursor
  | 0, g, c => (g, c)
  | n + 1, g, c =>
    match c.rest with
    | [] => (g, c)
    | ch :: _ =>
      if isBlank ch then gapIn n (g.addBlank ch c.column) c.skip
      else if isBreak ch then gapIn n { g with breaks := g.breaks ++ [ch] } c.skipBreak
      else (g, c)

def gap (c : Cursor) : Gap × Cursor := gapIn c.rest.length {} c

end Cursor

end BoxOffice.Yaml
