import BoxOffice.Pattern.Escape
/-!
# Classes in brackets

Between square brackets stand characters, ranges of them, kinds, and classes in brackets again, and
operations between such lists.  `Read.bracketed` reads all that belongs to an opening bracket.
-/

namespace BoxOffice.Pattern

structure Union where
  span : Span
  /-- The parts, the last first. -/
  items : List ClassTree := []

def Union.push (u : Union) (item : ClassTree) : Union :=
  { span := { start := if u.items.isEmpty then item.span.start else u.span.start,
              stop := item.span.stop }
    items := item :: u.items }

def Union.tree (u : Union) : ClassTree :=
  match u.items with
  | [] => .empty u.span
  | [item] => item
  | items => .union u.span items.reverse

structure OpenClass where
  /-- The characters before its first part. -/
  front : Span
  negated : Bool
  /-- What stands before the last operation, and the operation. -/
  before : Option (ClassTree × SetOperation) := none
  last : Union

def OpenClass.push (c : OpenClass) (item : ClassTree) : OpenClass :=
  { c with last := c.last.push item }

def OpenClass.tree (c : OpenClass) : ClassTree :=
  match c.before with
  | none => c.last.tree
  | some (first, operation) =>
    .combined { start := first.span.start, stop := c.last.tree.span.stop } operation first c.last.tree

/-- The class with an operation that ended at a place. -/
def OpenClass.operate (c : OpenClass) (operation : SetOperation) (place : Nat) : OpenClass :=
  { c with before := some (c.tree, operation), last := { span := .here place } }

def Symbol.classTree : Symbol → Read ClassTree
  | .literal l => return .literal l
  | .escaped k => return .escaped k
  | .property p => return .property p
  | .edge span _ => Read.wrong .classEscape span

def Symbol.boundary : Symbol → Read Literal
  | .literal l => return l
  | s => Read.wrong .rangeBoundary s.span

namespace Read

/-- Passes over dashes at the front of a class that began at `start`.  Each step of `n` passes over a
character. -/
def dashesIn (start : Nat) : Nat → Union → Read Union
  | 0, u => return u
  | n + 1, u => do
    if (← peek) = some '-' then
      let span := Span.one (← place)
      if !(← step) then wrong .classUnclosed (.here start)
      dashesIn start n (u.push (.literal { span, char := '-' }))
    else return u

/-- The front of a class, with the dashes or the bracket that belong to the class itself. -/
def openClass : Read OpenClass := do
  let start ← place
  let further : Read Unit := do if !(← step) then wrongFrom start .classUnclosed
  further
  let negated := (← peek) = some '^'
  if negated then further
  let dashes ← dashesIn start (← get).rest.length { span := .here (← place) }
  if dashes.items.isEmpty && (← peek) = some ']' then
    let span := Span.one (← place)
    further
    return { front := { start, stop := ← place }, negated,
             last := dashes.push (.literal { span, char := ']' }) }
  return { front := { start, stop := ← place }, negated, last := dashes }

/-- A kind of characters with its name between colons, if it is next. -/
def namedKind? : Read (Option KindOf) := do
  let start ← place
  let forms := Kind.named.flatMap fun (name, kind) =>
    [(s!"[:{name}:]", (kind, false)), (s!"[:^{name}:]", (kind, true))]
  match ← takesOneOf forms with
  | none => return none
  | some (kind, negated) => return some { span := { start, stop := ← place }, kind, negated }

/-- A part of a class: a symbol, or a range between two. -/
def classItem (front : Span) (c : Char) : Read ClassTree := do
  let first ← symbol c
  space
  if ← atEnd then wrong .classUnclosed front
  let behind ← peekBehind
  if (← peek) != some '-' || behind = some ']' || behind = some '-' then first.classTree
  else
    if !(← step) then wrong .classUnclosed front
    match ← peek with
    | none => wrong .classUnclosed front
    | some c =>
      let second ← symbol c
      let span := { start := first.span.start, stop := second.span.stop }
      let low ← first.boundary
      let high ← second.boundary
      if high.char < low.char then wrong .rangeBackwards span
      return .range span low high

/-- The rest of a class; `outer` are the classes around it, the innermost first.  Each step of `n`
passes over a character. -/
def classIn : Nat → (this : OpenClass) → (outer : List OpenClass) → Read Tree
  | 0, this, _ => wrong .classUnclosed this.front
  | n + 1, this, outer => do
    space
    match ← peek with
    | none => wrong .classUnclosed this.front
    | some '[' =>
      match ← namedKind? with
      | some k => classIn n (this.push (.named k)) outer
      | none => classIn n (← openClass) (this :: outer)
    | some ']' =>
      skip 1
      let span := { start := this.front.start, stop := ← place }
      match outer with
      | [] => return .bracketed span this.negated this.tree
      | around :: outer =>
        classIn n (around.push (.bracketed span this.negated this.tree)) outer
    | some c =>
      match ← takesOneOf SetOperation.written with
      | some operation => classIn n (this.operate operation (← place)) outer
      | none => classIn n (this.push (← classItem this.front c)) outer

/-- A class, whose bracket is next. -/
def bracketed : Read Tree := do
  let size := (← get).rest.length
  classIn size (← openClass) []

end Read

end BoxOffice.Pattern
