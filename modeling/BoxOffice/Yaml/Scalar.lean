import BoxOffice.Yaml.Text
/-!
# Scalars

The three ways to write a scalar.  `Cursor.plain` reads one without marks around it, `Cursor.quoted`
one between quotes, and `Cursor.block` one that follows its header on lines of its own.  Each gives the
value and the place behind it, or nothing where no scalar can be read.
-/

namespace BoxOffice.Yaml

/-! ## Plain scalars -/

/-- A character that ends a plain scalar between brackets. -/
def isFlowMark (c : Char) : Bool := c == ',' || c == '[' || c == ']' || c == '{' || c == '}'

/-- The next word of a plain scalar and what follows it; `flow` holds between brackets, where a colon
may not stand right before a mark. -/
def plainWord (flow : Bool) : List Char → Option (List Char × List Char)
  | [] => some ([], [])
  | c :: cs =>
    if flow && c == ':' && cs.head?.any (fun d => isFlowMark d || d == '?') then none
    else if isBlank c || isBreak c || (c == ':' && endsWord cs) || (flow && isFlowMark c) then
      some ([], c :: cs)
    else (plainWord flow cs).map fun (word, rest) => (c :: word, rest)

structure Read where
  text : List Char
  cursor : Cursor
  /-- A break stands between the scalar and the cursor. -/
  broken : Bool := false

/-- Goes on with a plain scalar that has `text` so far and `between` before its next word. -/
def plainIn (flow : Bool) (indent : Nat) :
    Nat → (text between : List Char) → (broken : Bool) → Cursor → Option Read
  | 0, text, _, broken, c => some { text, cursor := c, broken }
  | n + 1, text, between, broken, c =>
    if c.atBoundary || c.rest.head? == some '#' then some { text, cursor := c, broken }
    else
      match plainWord flow c.rest with
      | none => none
      | some ([], _) => some { text, cursor := c, broken }
      | some (word, rest) =>
        let text := text ++ between ++ word
        let c := c.skipTo rest
        if !endsWord rest || rest.isEmpty then some { text, cursor := c }
        else
          let (g, c) := c.gap
          if g.tab.any (· < indent) then none
          else if !flow && c.column < indent then
            some { text, cursor := c, broken := !g.breaks.isEmpty }
          else plainIn flow indent n text g.folded (!g.breaks.isEmpty) c

/-- Reads a plain scalar, whose later lines have to be indented by `indent` columns unless it stands
between brackets. -/
def Cursor.plain (c : Cursor) (flow : Bool) (indent : Nat) : Option Read :=
  plainIn flow indent c.rest.length [] [] false c

/-! ## Quoted scalars -/

def hexValue? (c : Char) : Option Nat :=
  if '0' ≤ c && c ≤ '9' then some (c.toNat - '0'.toNat)
  else if 'a' ≤ c && c ≤ 'f' then some (c.toNat - 'a'.toNat + 10)
  else if 'A' ≤ c && c ≤ 'F' then some (c.toNat - 'A'.toNat + 10)
  else none

def hexNumber? : (count n : Nat) → List Char → Option (Nat × List Char)
  | 0, n, cs => some (n, cs)
  | count + 1, n, c :: cs => (hexValue? c).bind fun d => hexNumber? count (16 * n + d) cs
  | _ + 1, _, [] => none

def scalar? (n : Nat) : Option Char := if n.isValidChar then some (Char.ofNat n) else none

def escapes : List (Char × Char) :=
  [('0', '\x00'), ('a', '\x07'), ('b', '\x08'), ('t', '\t'), ('\t', '\t'), ('n', '\n'),
    ('v', '\x0b'), ('f', '\x0c'), ('r', '\r'), ('e', '\x1b'), (' ', ' '), ('"', '"'), ('/', '/'),
    ('\\', '\\'), ('N', '\u0085'), ('_', '\u00a0'), ('L', '\u2028'), ('P', '\u2029')]

/-- The character that is escaped here, behind the backslash, and what follows it. -/
def escaped? : List Char → Option (Char × List Char)
  | [] => none
  | c :: cs =>
    let numbered (count : Nat) : Option (Char × List Char) := do
      let (n, rest) ← hexNumber? count 0 cs
      return (← scalar? n, rest)
    match escapes.lookup c with
    | some d => some (d, cs)
    | none =>
      if c == 'x' then numbered 2
      else if c == 'u' then numbered 4
      else if c == 'U' then numbered 8
      else none

/-- Where a word between quotes ends. -/
inductive WordEnd where
  | quote
  | space
  /-- The break behind a backslash. -/
  | escapedBreak
  deriving DecidableEq

/-- The next word between quotes, which end, and what follows, a quote and a backslash left out; `n`
bounds the characters that are left. -/
def quotedWord (single : Bool) : Nat → List Char → Option (List Char × WordEnd × List Char)
  | 0, _ => some ([], .space, [])
  | _ + 1, [] => some ([], .space, [])
  | n + 1, c :: cs =>
    if isBlank c || isBreak c then some ([], .space, c :: cs)
    else if single then
      match c, cs with
      | '\'', '\'' :: cs => more '\'' n cs
      | '\'', _ => some ([], .quote, cs)
      | _, _ => more c n cs
    else if c == '"' then some ([], .quote, cs)
    else if c == '\\' then
      if cs.head?.any isBreak then some ([], .escapedBreak, cs)
      else (escaped? cs).bind fun (d, rest) => more d n rest
    else more c n cs
where
  /-- The word that begins with `d`. -/
  more (d : Char) (n : Nat) (cs : List Char) : Option (List Char × WordEnd × List Char) :=
    (quotedWord single n cs).map fun (word, stop, rest) => (d :: word, stop, rest)

def quotedIn (single : Bool) : Nat → List Char → Cursor → Option Read
  | 0, _, _ => none
  | n + 1, text, c =>
    if c.atBoundary || c.rest.isEmpty then none
    else
      match quotedWord single c.rest.length c.rest with
      | none => none
      | some (word, .quote, rest) => some { text := text ++ word, cursor := c.skipTo rest }
      | some (word, .space, rest) =>
        let (g, c) := (c.skipTo rest).gap
        quotedIn single n (text ++ word ++ g.folded) c
      | some (word, .escapedBreak, rest) =>
        let (g, c) := (c.skipTo rest).skipBreak.gap
        quotedIn single n (text ++ word ++ g.breaks) c

def Cursor.quoted (c : Cursor) : Option Read :=
  quotedIn (c.rest.head? == some '\'') (c.rest.length + 1) [] c.skip

/-! ## Block scalars -/

inductive Chomp where
  | strip
  | clip
  | keep
  deriving DecidableEq

structure Header where
  chomp : Chomp := .clip
  /-- The indentation, where it is said. -/
  indent : Option Nat := none

def Header.ofChars : List Char → Option (Header × List Char)
  | cs =>
    let chomp? : Char → Option Chomp := fun c =>
      if c == '+' then some .keep else if c == '-' then some .strip else none
    let digit? : Char → Option Nat := fun c =>
      if '1' ≤ c && c ≤ '9' then some (c.toNat - '0'.toNat) else none
    match cs with
    | a :: b :: rest =>
      match chomp? a, digit? b, digit? a, chomp? b with
      | some chomp, some n, _, _ => some ({ chomp, indent := some n }, rest)
      | _, _, some n, some chomp => some ({ chomp, indent := some n }, rest)
      | some chomp, none, _, _ => if b == '0' then none else some ({ chomp }, b :: rest)
      | _, _, some n, none => some ({ indent := some n }, b :: rest)
      | _, _, _, _ => if a == '0' then none else some ({}, cs)
    | [a] =>
      match chomp? a, digit? a with
      | some chomp, _ => some ({ chomp }, [])
      | _, some n => some ({ indent := some n }, [])
      | _, _ => if a == '0' then none else some ({}, cs)
    | [] => some ({}, [])

/-- Passes over empty lines and the indentation of the next one: the breaks, the greatest column that
was reached, and the place.  Where the indentation is not known yet, all spaces belong to it. -/
def indentIn (indent : Option Nat) :
    Nat → (breaks : List Char) → (deepest : Nat) → Cursor → Option (List Char × Nat × Cursor)
  | 0, breaks, deepest, c => some (breaks, deepest, c)
  | n + 1, breaks, deepest, c =>
    let inside := indent.all (c.column < ·)
    match c.rest with
    | ch :: _ =>
      if inside && ch == ' ' then indentIn indent n breaks (max deepest (c.column + 1)) c.skip
      else if inside && ch == '\t' then none
      else if isBreak ch then indentIn indent n (breaks ++ [ch]) deepest c.skipBreak
      else some (breaks, deepest, c)
    | [] => some (breaks, deepest, c)

structure BlockText where
  text : List Char := []
  /-- The break of the line before. -/
  last : List Char := []
  /-- The breaks of the empty lines after it. -/
  empty : List Char := []
  /-- The line before begins with a blank. -/
  blank : Bool := false

/-- The next line of a block scalar, with the breaks before it; in a folded one a break between two
lines that begin with no blank counts as a space. -/
def BlockText.addLine (b : BlockText) (literal : Bool) (line : List Char) : BlockText :=
  let blank := line.head?.any isBlank
  let fold := !literal && b.last == ['\n'] && !b.blank && !blank
  let between := if fold then (if b.empty.isEmpty then [' '] else []) else b.last
  { text := b.text ++ between ++ b.empty ++ line, blank }

def blockIn (literal : Bool) (indent : Nat) : Nat → BlockText → Cursor → Option (BlockText × Cursor)
  | 0, b, c => some (b, c)
  | n + 1, b, c =>
    if c.column != indent || c.rest.isEmpty then some (b, c)
    else
      let line := c.rest.takeWhile (!isBreak ·)
      let b := b.addLine literal line
      let c := c.skip line.length
      let last := c.rest.take 1
      let c := if last.isEmpty then c else c.skipBreak
      match indentIn (some indent) c.rest.length [] 0 c with
      | none => none
      | some (empty, _, c) => blockIn literal indent n { b with last, empty } c

/-- The place behind the rest of a header: blanks, a comment, and the break. -/
def Cursor.endHeader? (c : Cursor) : Option Cursor :=
  let c := c.skipBlanks
  let c := if c.rest.head? == some '#' then c.skipLine else c
  match c.rest with
  | [] => some c
  | ch :: _ => if isBreak ch then some c.skipBreak else none

/-- Reads a block scalar, whose first mark stands here, inside of a collection that is indented by
`parent` columns, if by any. -/
def Cursor.block (c : Cursor) (parent : Option Nat) : Option Read := do
  let literal := c.rest.head? == some '|'
  let c := c.skip
  let (header, rest) ← Header.ofChars c.rest
  let c ← (c.skipTo rest).endHeader?
  let said := header.indent.map (parent.getD 0 + ·)
  let (empty, deepest, c) ← indentIn said c.rest.length [] 0 c
  let least := max 1 ((parent.map (· + 1)).getD 0)
  let indent := said.getD (max deepest least)
  let (b, c) ← blockIn literal indent (c.rest.length + 1) { empty } c
  let text := match header.chomp with
    | .strip => b.text
    | .clip => b.text ++ b.last
    | .keep => b.text ++ b.last ++ b.empty
  return { text, cursor := c, broken := true }

end BoxOffice.Yaml
