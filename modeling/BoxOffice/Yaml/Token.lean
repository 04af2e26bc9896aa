import BoxOffice.Yaml.Tag
/-!
# Tokens

A document as a sequence of tokens, in which its indentation has become explicit: a block collection
begins with a token of its own and ends with `blockEnd`.

A scalar, an alias or a bracket may turn out to be the key of a mapping only when the colon behind it
is seen, on the same line and not more than `keyLimit` bytes further on.  A `Lexer` therefore
remembers one candidate for each level of brackets, and puts the tokens of the key in front of it when
the colon comes.
-/

namespace BoxOffice.Yaml

inductive Style where
  | plain
  | quoted
  | literal
  | folded
  deriving DecidableEq, Repr

inductive Token where
  | version (major minor : Nat)
  /-- What the tags that begin with `handle` begin with. -/
  | tagStart (handle : String) (start : Tag)
  | documentStart
  | documentEnd
  | blockSequenceStart
  | blockMappingStart
  | blockEnd
  | flowSequenceStart
  | flowSequenceEnd
  | flowMappingStart
  | flowMappingEnd
  | blockEntry
  | flowEntry
  | key
  | value
  | alias (name : String)
  | anchor (name : String)
  | tag (handle : String) (rest : Tag)
  | scalar (style : Style) (text : String)
  deriving DecidableEq, Repr

/-- What may turn out to be a key. -/
structure Candidate where
  /-- It stands where only a key can stand. -/
  required : Bool
  /-- How many tokens are before it. -/
  position : Nat
  line : Nat
  column : Nat
  index : Nat

/-- How many bytes behind the front of a key its colon may be. -/
def keyLimit : Nat := 1024

structure Lexer where
  cursor : Cursor
  tokens : Array Token := #[]
  /-- The columns of the block collections that are open, the innermost first. -/
  indents : List Nat := []
  /-- The candidates of the open brackets, the innermost first, and last the one outside. -/
  candidates : List (Option Candidate) := [none]
  /-- A key may begin here. -/
  keyAllowed : Bool := true

/-- A step that may find that the text is no document. -/
abbrev Lex := StateT Lexer Option

namespace Lexer

def inFlow (l : Lexer) : Bool := 1 < l.candidates.length

def indent? (l : Lexer) : Option Nat := l.indents.head?

def insertToken (l : Lexer) (i : Nat) (t : Token) : Lexer :=
  { l with tokens := l.tokens.extract 0 i ++ #[t] ++ l.tokens.extract i l.tokens.size }

end Lexer

namespace Lex

def emit (t : Token) : Lex Unit := modify fun l => { l with tokens := l.tokens.push t }

def goTo (c : Cursor) : Lex Unit := modify fun l => { l with cursor := c }

def allowKey (b : Bool) : Lex Unit := modify fun l => { l with keyAllowed := b }

/-- The candidate of this level, replaced by another or none. -/
def setCandidate (k : Option Candidate) : Lex Unit :=
  modify fun l => { l with candidates := k :: l.candidates.tail }

/-- Gives the candidate up, which must not be one that only a key can be. -/
def dropCandidate : Lex Unit := do
  let k := (← get).candidates.headD none
  if k.any (·.required) then failure
  setCandidate none

/-- What begins here may be a key. -/
def mayBeKey : Lex Unit := do
  let l ← get
  if l.keyAllowed then
    dropCandidate
    let c := l.cursor
    setCandidate (some
      { required := !l.inFlow && l.indent? == some c.column
        position := l.tokens.size, line := c.line, column := c.column, index := c.index })

/-- Gives up the candidates whose colon would come too late here. -/
def dropStale : Lex Unit := do
  let l ← get
  let stale (k : Candidate) : Bool :=
    k.line < l.cursor.line || k.index + keyLimit < l.cursor.index
  if l.candidates.any fun k => k.any fun k => k.required && stale k then failure
  set { l with candidates := l.candidates.map fun (k : Option Candidate) => k.filter (!stale ·) }

/-- Opens a block collection in this column, unless one is open there; its token comes to stand at
`position`, or at the end. -/
def openBlock (column : Nat) (position : Option Nat) (t : Token) : Lex Unit := do
  let l ← get
  if !l.inFlow && l.indents.all (· < column) then
    set { l.insertToken (position.getD l.tokens.size) t with indents := column :: l.indents }

/-- Closes the block collections that a text in column `column` does not belong to; all of them, where
there is no column. -/
def closeBlocks (column : Option Nat) : Lex Unit := do
  let l ← get
  if !l.inFlow then
    let (closed, indents) := l.indents.span fun i => column.all (· < i)
    set { l with indents, tokens := l.tokens ++ (closed.map fun _ => Token.blockEnd).toArray }

/-! ## White space, comments and directives -/

/-- Passes over white space and comments, `n` being the characters that are left. -/
def skipSpaceIn : Nat → Lex Unit
  | 0 => pure ()
  | n + 1 => do
    let l ← get
    let c := l.cursor
    match c.rest with
    | [] => pure ()
    | ch :: _ =>
      if ch == ' ' || (ch == '\uFEFF' && c.column == 0) ||
          (ch == '\t' && (l.inFlow || !l.keyAllowed)) then
        goTo c.skip
        skipSpaceIn n
      else if ch == '#' then
        goTo c.skipLine
        skipSpaceIn n
      else if isBreak ch then
        goTo c.skipBreak
        if !l.inFlow then allowKey true
        skipSpaceIn n
      else pure ()

def skipSpace : Lex Unit := do skipSpaceIn (← get).cursor.rest.length

def digits? (cs : List Char) : Option (Nat × List Char) :=
  let (ds, rest) := cs.span (·.isDigit)
  if ds.isEmpty || 9 < ds.length then none
  else some (ds.foldl (fun n d => 10 * n + (d.toNat - '0'.toNat)) 0, rest)

def directive : Lex Unit := do
  closeBlocks none
  dropCandidate
  allowKey false
  let c := (← get).cursor.skip
  let (name, _) := c.rest.span isNameChar
  let c := c.skip name.length
  if !endsWord c.rest then failure
  let c := c.skipBlanks
  let c ←
    if name == "YAML".toList then
      let (major, rest) ← digits? c.rest
      let rest ← if rest.head? == some '.' then pure rest.tail else failure
      let (minor, rest) ← digits? rest
      emit (.version major minor)
      pure (c.skipTo rest)
    else if name == "TAG".toList then
      let (handle, rest) ← tagHandle? c.rest
      if handle.length != 1 && handle.getLast? != some '!' then failure
      if !(rest.head?.any isBlank) then failure
      let c := (c.skipTo rest).skipBlanks
      let (start, rest) ← Tag.read? true c.rest
      if rest.length == c.rest.length || !endsWord rest then failure
      emit (.tagStart (.ofList handle) start)
      pure (c.skipTo rest)
    else failure
  let c ← c.endHeader?
  goTo c

/-! ## Tokens -/

def boundary (t : Token) : Lex Unit := do
  closeBlocks none
  dropCandidate
  allowKey false
  emit t
  goTo ((← get).cursor.skip 3)

def openFlow (t : Token) : Lex Unit := do
  mayBeKey
  modify fun l => { l with candidates := none :: l.candidates }
  allowKey true
  emit t
  goTo (← get).cursor.skip

def closeFlow (t : Token) : Lex Unit := do
  dropCandidate
  modify fun l => if l.inFlow then { l with candidates := l.candidates.tail } else l
  allowKey false
  emit t
  goTo (← get).cursor.skip

def flowEntry : Lex Unit := do
  dropCandidate
  allowKey true
  emit .flowEntry
  goTo (← get).cursor.skip

def blockEntry : Lex Unit := do
  let l ← get
  if !l.inFlow && !l.keyAllowed then failure
  openBlock l.cursor.column none .blockSequenceStart
  dropCandidate
  allowKey true
  emit .blockEntry
  goTo l.cursor.skip

def explicitKey : Lex Unit := do
  let l ← get
  if !l.inFlow && !l.keyAllowed then failure
  openBlock l.cursor.column none .blockMappingStart
  dropCandidate
  allowKey (!l.inFlow)
  emit .key
  goTo l.cursor.skip

def value : Lex Unit := do
  let l ← get
  match l.candidates.headD none with
  | some k =>
    modify fun l => l.insertToken k.position .key
    openBlock k.column (some k.position) .blockMappingStart
    setCandidate none
    allowKey false
  | none =>
    if !l.inFlow && !l.keyAllowed then failure
    openBlock l.cursor.column none .blockMappingStart
    allowKey (!l.inFlow)
  emit .value
  goTo l.cursor.skip

/-- A name behind `&` or `*`. -/
def named (make : String → Token) : Lex Unit := do
  mayBeKey
  allowKey false
  let c := (← get).cursor.skip
  let (name, rest) := c.rest.span isNameChar
  if name.isEmpty then failure
  if !endsWord rest && !(rest.head?.any "?:,]\x7d%@\x60".toList.contains) then failure
  emit (make (.ofList name))
  goTo (c.skipTo rest)

def tag : Lex Unit := do
  mayBeKey
  allowKey false
  let l ← get
  let c := l.cursor
  let (token, rest) ← (match c.rest with
    | '!' :: '<' :: cs => do
      let (tag, rest) ← Tag.read? true cs
      if rest.length == cs.length || rest.head? != some '>' then failure
      else some (Token.tag "" tag, rest.tail)
    | cs => do
      let (handle, cs) ← tagHandle? cs
      let (tag, rest) ← Tag.read? false cs
      if handle.length != 1 && handle.getLast? == some '!' then
        if rest.length == cs.length then failure
        else some (Token.tag (.ofList handle) tag, rest)
      else
        let tag := Tag.ofString (.ofList handle.tail) ++ tag
        if tag.isEmpty then some (Token.tag "" Tag.bare, rest)
        else some (Token.tag "!" tag, rest) : Option (Token × List Char))
  if !endsWord rest && !(l.inFlow && rest.head? == some ',') then failure
  emit token
  goTo (c.skipTo rest)

def scalar (style : Style) (r : Read) : Lex Unit := do
  emit (.scalar style (.ofList r.text))
  goTo r.cursor
  if r.broken then allowKey true

def blockScalar : Lex Unit := do
  dropCandidate
  let l ← get
  scalar (if l.cursor.rest.head? == some '|' then .literal else .folded)
    (← l.cursor.block l.indent?)

def quotedScalar : Lex Unit := do
  mayBeKey
  allowKey false
  scalar .quoted (← (← get).cursor.quoted)

def plainScalar : Lex Unit := do
  mayBeKey
  allowKey false
  let l ← get
  scalar .plain (← l.cursor.plain l.inFlow ((l.indent?.map (· + 1)).getD 0))

/-- A plain scalar begins here. -/
def beginsPlain (flow : Bool) : List Char → Bool
  | [] => false
  | c :: cs =>
    if c == '-' then !(cs.head?.any isBlank)
    else if c == '?' || c == ':' then !flow && !endsWord cs
    else !endsWord [c] && !",[]\x7b\x7d#&*!|>'\"%@\x60".toList.contains c

/-- What begins here, in a text that goes on. -/
def token (c : Char) (cs : List Char) : Lex Unit := do
  let l ← get
  let flow := l.inFlow
  if c == '%' && l.cursor.column == 0 then directive
  else if l.cursor.atMarker '-' then boundary .documentStart
  else if l.cursor.atMarker '.' then boundary .documentEnd
  else if c == '[' then openFlow .flowSequenceStart
  else if c == '\x7b' then openFlow .flowMappingStart
  else if c == ']' then closeFlow .flowSequenceEnd
  else if c == '\x7d' then closeFlow .flowMappingEnd
  else if c == ',' then flowEntry
  else if c == '-' && endsWord cs then blockEntry
  else if c == '?' && (flow || endsWord cs) then explicitKey
  else if c == ':' && (flow || endsWord cs) then value
  else if c == '*' then named .alias
  else if c == '&' then named .anchor
  else if c == '!' then tag
  else if (c == '|' || c == '>') && !flow then blockScalar
  else if c == '\'' || c == '"' then quotedScalar
  else if beginsPlain flow (c :: cs) then plainScalar
  else failure

/-- Reads tokens to the end of the text, which each of them brings nearer. -/
def tokensIn : Nat → Lex Unit
  | 0 => failure
  | n + 1 => do
    skipSpace
    dropStale
    let c := (← get).cursor
    match c.rest with
    | [] =>
      closeBlocks none
      dropCandidate
    | ch :: rest =>
      closeBlocks (some c.column)
      token ch rest
      tokensIn n

end Lex

def tokens? (text : String) : Option (List Token) := do
  let rest ← normalise text
  let (_, l) ← (Lex.tokensIn (rest.length + 1)).run { cursor := { rest } }
  return l.tokens.toList

end BoxOffice.Yaml
