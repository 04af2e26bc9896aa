import BoxOffice.Pattern.Reader
/-!
# Escapes

A backslash gives what follows another meaning: a character by its number, characters with a property
or of a kind, an edge, or just the character itself.  `Read.escape` reads one.
-/

namespace BoxOffice.Pattern

/-- What can stand in a pattern and in a class: a character, or an escape. -/
inductive Symbol where
  | literal (l : Literal)
  | escaped (k : KindOf)
  | property (p : Property)
  | edge (span : Span) (e : Edge)
  deriving DecidableEq, Repr

def Symbol.span : Symbol → Span
  | .literal l => l.span
  | .escaped k => k.span
  | .property p => p.span
  | .edge span _ => span

def Symbol.tree : Symbol → Tree
  | .literal l => .literal l
  | .escaped k => .escaped k
  | .property p => .property p
  | .edge span e => .edge span e

def hexDigit? (c : Char) : Option Nat :=
  if '0' ≤ c && c ≤ '9' then some (c.toNat - '0'.toNat)
  else if 'a' ≤ c.toLower && c.toLower ≤ 'f' then some (c.toLower.toNat - 'a'.toNat + 10)
  else none

def hexValue (digits : List Char) : Nat := (digits.filterMap hexDigit?).foldl (fun n d => 16 * n + d) 0

def lettered : List (Char × Char) :=
  [('a', '\x07'), ('f', '\x0c'), ('t', '\t'), ('n', '\n'), ('r', '\r'), ('v', '\x0b')]

/-- The character stands for itself behind a backslash. -/
def isPlainEscaped (c : Char) : Bool := c.toNat < 0x80 && !c.isAlphanum && c != '<' && c != '>'

namespace Read

def numbered (span : Span) (digits : List Char) : Read Char := do
  let n := hexValue digits
  if n.isValidChar then return .ofNat n else wrong .hexNoCharacter span

def hexDigits : Nat → Read (List Char)
  | 0 => return []
  | n + 1 => do
    match ← peek with
    | none => wrongHere .escapeUnfinished
    | some c =>
      if (hexDigit? c).isNone then wrongNext .hexDigit
      let _ ← step
      return c :: (← hexDigits n)

/-- The rest of an escape with a number, from its letter on; it has so many digits where no braces hold
it. -/
def hex (start width : Nat) : Read Literal := do
  let letter ← peek
  if !(← step) then wrongHere .escapeUnfinished
  let front ← place
  if (← peek) = some '\x7b' then
    let _ ← step
    let digits ← gather fun c => (hexDigit? c).isSome
    let stop ← place
    match ← peek with
    | none => wrongFrom front .escapeUnfinished
    | some c =>
      if c != '\x7d' then wrongNext .hexDigit
      let _ ← step
      if digits.isEmpty then wrongFrom front .hexEmpty
      let char ← numbered { start := front + 1, stop } digits
      return { span := { start, stop := ← place }, char }
  else
    let digits ← hexDigits width
    let stop ← place
    let char ← numbered { start := front, stop } digits
    return { span := { start, stop }, char, asByte := letter = some 'x' }

/-- The rest of an escape for a property, from its letter on. -/
def property (start : Nat) : Read Property := do
  if !(← step) then wrongHere .escapeUnfinished
  match ← peek with
  | none => wrongHere .escapeUnfinished
  | some '\\' => wrongNext .propertyEscaped
  | some '\x7b' =>
    let _ ← step
    let name ← gather (· != '\x7d')
    if ← atEnd then wrongHere .escapeUnfinished
    skip 1
    return { span := { start, stop := ← place }, name }
  | some c =>
    let _ ← step
    return { span := { start, stop := ← place }, name := [c] }

/-- The name of an edge in braces; `none` where the braces hold a count. -/
def edgeName? (start : Nat) : Read (Option Edge) := do
  let front ← get
  let isLetter (c : Char) : Bool := c.isAlpha || c == '-'
  if !(← step) then wrongFrom start .edgeOrCountUnfinished
  if !(← peek).any isLetter then
    set front
    return none
  let first ← place
  let name ← gather isLetter
  if (← peek) != some '\x7d' then wrongFrom front.place .edgeUnclosed
  let stop ← place
  skip 1
  match Edge.named.lookup (.ofList name) with
  | some e => return some e
  | none => wrong .edgeUnknown { start := first, stop }

/-- The rest of an escape for an edge, from behind its letter on. -/
def edge (start : Nat) (e : Edge) : Read Symbol := do
  let named ← if e = .word && (← peek) = some '\x7b' then edgeName? start else pure none
  return .edge { start, stop := ← place } (named.getD e)

def escape : Read Symbol := do
  let start ← place
  skip 1
  match ← peek with
  | none => wrongFrom start .escapeUnfinished
  | some c =>
    if c == 'p' || c == 'P' then .property <$> property start
    else match [('x', 2), ('u', 4), ('U', 8)].lookup c with
      | some width => .literal <$> hex start width
      | none =>
        skip 1
        let span := { start, stop := ← place }
        if c.isDigit then wrong .backReference span
        else if isPlainEscaped c then return .literal { span, char := c }
        else if let some d := lettered.lookup c then return .literal { span, char := d }
        else if let some kind := Kind.escaped.lookup c.toLower then
          return .escaped { span, kind, negated := c.isUpper }
        else if let some e := Edge.escaped.lookup c then edge start e
        else wrong .escapeUnknown span

def symbol (c : Char) : Read Symbol := do
  if c == '\\' then escape
  else
    let span := Span.one (← place)
    skip 1
    return .literal { span, char := c }

end Read

end BoxOffice.Pattern
