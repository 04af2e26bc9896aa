import BoxOffice.Pattern.Fault
/-!
# Patterns as they are written

A `Tree` is a pattern with its parts, each with the characters it is written with.  What stands between
square brackets is a `ClassTree`.  What either means is not decided here: the same part can mean
different things under different flags.
-/

namespace BoxOffice.Pattern

/-! ## Characters and kinds of characters -/

/-- A character that stands for itself, or an escape that stands for a character. -/
structure Literal where
  span : Span
  char : Char
  /-- It is written as a byte, with two hexadecimal digits and no braces. -/
  asByte : Bool := false
  deriving DecidableEq, Repr

inductive Kind where
  | alnum
  | alpha
  | ascii
  | blank
  | cntrl
  | digit
  | graph
  | lower
  | print
  | punct
  | space
  | upper
  | word
  | xdigit
  deriving DecidableEq, Repr

def Kind.named : List (String × Kind) :=
  [("alnum", .alnum), ("alpha", .alpha), ("ascii", .ascii), ("blank", .blank), ("cntrl", .cntrl),
    ("digit", .digit), ("graph", .graph), ("lower", .lower), ("print", .print), ("punct", .punct),
    ("space", .space), ("upper", .upper), ("word", .word), ("xdigit", .xdigit)]

/-- The kinds that have escapes with a lower case letter. -/
def Kind.escaped : List (Char × Kind) := [('d', .digit), ('s', .space), ('w', .word)]

structure KindOf where
  span : Span
  kind : Kind
  negated : Bool
  deriving DecidableEq, Repr

structure Property where
  span : Span
  name : List Char
  deriving DecidableEq, Repr

/-! ## Places between characters -/

inductive Edge where
  | lineStart
  | lineStop
  | textStart
  | textStop
  | word
  | notWord
  | wordStart
  | wordStop
  | wordStartHalf
  | wordStopHalf
  deriving DecidableEq, Repr

def Edge.named : List (String × Edge) :=
  [("start", .wordStart), ("end", .wordStop), ("start-half", .wordStartHalf),
    ("end-half", .wordStopHalf)]

def Edge.escaped : List (Char × Edge) :=
  [('A', .textStart), ('z', .textStop), ('b', .word), ('B', .notWord), ('<', .wordStart),
    ('>', .wordStop)]

/-! ## Flags -/

/-- What a flag switches. -/
inductive Flag where
  /-- Both cases of a letter are meant. -/
  | anyCase
  /-- Each line has a start and a stop of its own. -/
  | lines
  /-- A dot may stand for the end of a line. -/
  | dotAll
  /-- A repetition is as short as it can be, and one with a question mark is as long as it can be. -/
  | swapped
  /-- Characters are meant, not bytes. -/
  | characters
  /-- A carriage return may end a line. -/
  | returns
  /-- Blanks and remarks are passed over. -/
  | spaced
  deriving DecidableEq, Repr

def Flag.written : List (Char × Flag) :=
  [('i', .anyCase), ('m', .lines), ('s', .dotAll), ('U', .swapped), ('u', .characters),
    ('R', .returns), ('x', .spaced)]

/-- The flags that are switched on, and those that are switched off. -/
structure Switches where
  on : List Flag := []
  off : List Flag := []
  deriving DecidableEq, Repr

/-- How a flag stands after some were switched. -/
def Switches.after (s : Switches) (before : Bool) (f : Flag) : Bool :=
  (before || s.on.contains f) && !s.off.contains f

/-! ## Trees -/

/-- How often something is repeated; without `most` there is no limit. -/
structure Repeat where
  least : Nat
  most : Option Nat
  /-- As often as can be. -/
  greedy : Bool
  deriving DecidableEq, Repr

/-- How two sets of characters make one. -/
inductive SetOperation where
  | both
  | onlyFirst
  | onlyOne
  deriving DecidableEq, Repr

def SetOperation.written : List (String × SetOperation) :=
  [("&&", .both), ("--", .onlyFirst), ("~~", .onlyOne)]

/-- What stands between square brackets. -/
inductive ClassTree where
  | empty (span : Span)
  | literal (l : Literal)
  | range (span : Span) (first last : Literal)
  /-- A kind of characters with its name between colons. -/
  | named (k : KindOf)
  /-- A kind of characters with its escape. -/
  | escaped (k : KindOf)
  | property (p : Property)
  | bracketed (span : Span) (negated : Bool) (inner : ClassTree)
  | union (span : Span) (items : List ClassTree)
  | combined (span : Span) (operation : SetOperation) (first second : ClassTree)

def ClassTree.span : ClassTree → Span
  | .empty span | .range span .. | .bracketed span .. | .union span _ | .combined span .. => span
  | .literal l => l.span
  | .named k | .escaped k => k.span
  | .property p => p.span

/-- What is between the parentheses of a group, beside its content. -/
inductive GroupKind where
  /-- What it finds is kept under a number. -/
  | captured (number : Nat)
  | plain (switches : Switches)
  deriving DecidableEq, Repr

inductive Tree where
  | empty (span : Span)
  /-- Flags that hold up to the end of the group. -/
  | switched (span : Span) (switches : Switches)
  | literal (l : Literal)
  | dot (span : Span)
  | edge (span : Span) (e : Edge)
  | escaped (k : KindOf)
  | property (p : Property)
  | bracketed (span : Span) (negated : Bool) (inner : ClassTree)
  | repeated (span : Span) (times : Repeat) (part : Tree)
  | group (span : Span) (kind : GroupKind) (inner : Tree)
  | sequence (span : Span) (parts : List Tree)
  | choice (span : Span) (branches : List Tree)

def Tree.span : Tree → Span
  | .empty span | .switched span _ | .dot span | .edge span _ | .bracketed span .. |
    .repeated span .. | .group span .. | .sequence span _ | .choice span _ => span
  | .literal l => l.span
  | .escaped k => k.span
  | .property p => p.span

def Tree.isRepeatable : Tree → Bool
  | .empty _ | .switched .. => false
  | _ => true

end BoxOffice.Pattern
