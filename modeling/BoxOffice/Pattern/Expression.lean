import BoxOffice.Pattern.Codes
/-!
# Expressions

An `Expression` is what a pattern means, with all flags worked out.  It is built by `Expression.ofRepeat`,
`Expression.ofParts` and `Expression.ofBranches`, which leave out what changes nothing: texts side by
side become one text, and a choice between characters becomes a set of characters.

What can be said of an expression from what can be said of its parts is an `Expression.Summary`.
-/

namespace BoxOffice.Pattern

structure Look where
  edge : Edge
  /-- For a line: a carriage return may end it.  For a word: letters beyond ASCII belong to it. -/
  wide : Bool
  deriving DecidableEq, Repr

/-- Whether it asks for words beyond ASCII. -/
def Look.isWideWord (l : Look) : Bool :=
  l.wide && match l.edge with
    | .lineStart | .lineStop | .textStart | .textStop => false
    | _ => true

inductive Expression where
  | empty
  | text (chars : List Char)
  /-- One of some characters, or of some bytes. -/
  | oneOf (codes : Codes) (bytes : Bool)
  | look (l : Look)
  | repeated (times : Repeat) (part : Expression)
  | captured (number : Nat) (inner : Expression)
  | sequence (parts : List Expression)
  | choice (branches : List Expression)

namespace Expression

/-! ## Equality -/

mutual

def same : Expression → Expression → Bool
  | .empty, .empty => true
  | .text a, .text b => a == b
  | .oneOf s a, .oneOf t b => s.ranges == t.ranges && a == b
  | .look a, .look b => a == b
  | .repeated m a, .repeated n b => m == n && a.same b
  | .captured m a, .captured n b => m == n && a.same b
  | .sequence as, .sequence bs => allSame as bs
  | .choice as, .choice bs => allSame as bs
  | _, _ => false

def allSame : List Expression → List Expression → Bool
  | [], [] => true
  | a :: as, b :: bs => a.same b && allSame as bs
  | _, _ => false

end

/-! ## Summaries -/

/-- What can be said of an expression, given what can be said of its parts. -/
structure Summary (α : Type) where
  empty : α
  text : List Char → α
  oneOf : Codes → α
  look : Look → α
  repeated : Repeat → α → α
  captured : α → α
  sequence : List α → α
  choice : List α → α

mutual

def summary {α : Type} (s : Summary α) : Expression → α
  | .empty => s.empty
  | .text chars => s.text chars
  | .oneOf codes _ => s.oneOf codes
  | .look l => s.look l
  | .repeated times part => s.repeated times (part.summary s)
  | .captured _ inner => s.captured (inner.summary s)
  | .sequence parts => s.sequence (summaries s parts)
  | .choice branches => s.choice (summaries s branches)

def summaries {α : Type} (s : Summary α) : List Expression → List α
  | [] => []
  | e :: es => e.summary s :: summaries s es

end

def total? (ns : List (Option Nat)) : Option Nat :=
  ns.foldl (fun sum n => do return (← sum) + (← n)) (some 0)

def byteSize (code : Nat) : Nat :=
  if code < 0x80 then 1 else if code < 0x800 then 2 else if code < 0x10000 then 3 else 4

/-- The fewest bytes that an expression can stand for; `none` if it stands for nothing. -/
def leastSummary : Summary (Option Nat) where
  empty := some 0
  text chars := some ((chars.map fun c => byteSize c.toNat).foldl (· + ·) 0)
  oneOf codes := codes.ranges.head?.map fun r => byteSize r.first
  look _ := some 0
  repeated times n := n.map (· * times.least)
  captured n := n
  sequence := total?
  choice ns := if ns.all (·.isSome) then (ns.filterMap id).min? else none

/-- The most bytes that an expression can stand for, if there is a limit that is easy to find. -/
def mostSummary : Summary (Option Nat) where
  empty := some 0
  text chars := some ((chars.map fun c => byteSize c.toNat).foldl (· + ·) 0)
  oneOf codes := codes.ranges.getLast?.map fun r => byteSize r.last
  look _ := some 0
  repeated times n := do return (← n) * (← times.most)
  captured n := n
  sequence := total?
  choice ns := if ns.all (·.isSome) then (ns.filterMap id).max? else none

def most? (e : Expression) : Option Nat := e.summary mostSummary

def hasWideWord (e : Expression) : Bool :=
  e.summary
    { empty := false, text := fun _ => false, oneOf := fun _ => false, look := Look.isWideWord
      repeated := fun _ b => b, captured := id, sequence := (·.any id), choice := (·.any id) }

/-- Whether it can only stand at an end of the text, the front or, where `backwards` holds, the back; and
the most bytes that it can stand for. -/
def anchorSummary (backwards : Bool) : Summary (Bool × Option Nat) where
  empty := (false, mostSummary.empty)
  text chars := (false, mostSummary.text chars)
  oneOf codes := (false, mostSummary.oneOf codes)
  look l := (l.edge == if backwards then .textStop else .textStart, mostSummary.look l)
  repeated times p := (0 < times.least && p.1, mostSummary.repeated times p.2)
  captured p := p
  sequence ps :=
    let order := if backwards then ps.reverse else ps
    let still := order.takeWhile fun p => p.2 = some 0
    (((order.drop still.length).take 1 ++ still).any (·.1), mostSummary.sequence (ps.map (·.2)))
  choice ps := (ps.all (·.1), mostSummary.choice (ps.map (·.2)))

/-- Whether it can only stand at the front of the text, or at the back. -/
def isAnchored (backwards : Bool) (e : Expression) : Bool := (e.summary (anchorSummary backwards)).1

/-! ## Building -/

def ofText (chars : List Char) : Expression := if chars.isEmpty then .empty else .text chars

/-- One of some characters; a set of a single one is a text. -/
def ofCodes (codes : Codes) (bytes : Bool) : Expression :=
  match codes.only? with
  | some c => .text [c]
  | none => .oneOf codes (bytes || codes.ranges.isEmpty)

/-- A repetition; one of what is empty happens at most once, and once is no repetition. -/
def ofRepeat (times : Repeat) (part : Expression) : Expression :=
  let times :=
    if part.most? = some 0 then
      { times with least := min times.least 1, most := some ((times.most.getD 1).min 1) }
    else times
  if times.most = some 0 then .empty
  else if times.least = 1 && times.most = some 1 then part
  else .repeated times part

def parts : Expression → List Expression
  | .sequence parts => parts
  | e => [e]

def branches : Expression → List Expression
  | .choice branches => branches
  | e => [e]

/-- A part in front of parts among which no two texts are side by side. -/
def join (e : Expression) (es : List Expression) : List Expression :=
  match e, es with
  | .empty, es => es
  | .text a, .text b :: es => .text (a ++ b) :: es
  | e, es => e :: es

def ofParts (es : List Expression) : Expression :=
  match (es.flatMap parts).foldr join [] with
  | [] => .empty
  | [e] => e
  | es => .sequence es

/-- The set of characters that a branch stands for, if it is a single character. -/
def character? : Expression → Option Codes
  | .text [c] => some (.single c)
  | _ => none

/-- The set of characters that a branch stands for, if it is one of some. -/
def codes? : Expression → Option Codes
  | .oneOf codes _ => some codes
  | _ => none

/-- The set that branches stand for together, if each stands for one. -/
def allCodes? (set? : Expression → Option Codes) (es : List Expression) : Option Codes :=
  (es.mapM set?).map fun sets => sets.foldl .union {}

/-- What two lists of expressions begin with. -/
def common : List Expression → List Expression → List Expression
  | a :: as, b :: bs => if a.same b then a :: common as bs else []
  | _, _ => []

def commonFront : List Expression → List Expression
  | .sequence parts :: es =>
    es.foldl (fun front e => match e with
      | .sequence parts => common front parts
      | _ => []) parts
  | _ => []

/-- Branches of which none is a choice. -/
def ofFlatBranches (es : List Expression) : Expression :=
  match es with
  | [] => ofCodes {} true
  | [e] => e
  | es =>
    match allCodes? character? es, allCodes? codes? es with
    | some codes, _ | none, some codes => ofCodes codes false
    | none, none => .choice es

/-- A choice; what all its branches begin with stands in front of it. -/
def ofBranches (es : List Expression) : Expression :=
  let es := es.flatMap branches
  let front := if es.length ≤ 1 then [] else commonFront es
  if front.isEmpty then ofFlatBranches es
  else
    let rests := es.map fun e => ofParts (e.parts.drop front.length)
    ofParts (front ++ [ofFlatBranches (rests.flatMap branches)])

end Expression

end BoxOffice.Pattern
