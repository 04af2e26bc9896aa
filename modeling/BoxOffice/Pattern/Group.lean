import BoxOffice.Pattern.Reader
import BoxOffice.Text.Letter
/-!
# The fronts of groups

Behind the opening parenthesis of a group stands what kind of group it is: it may have a name, or flags.
Flags may also stand alone in their parentheses.  `Read.groupFront` reads up to where the content of the
group begins.
-/

namespace BoxOffice.Pattern

/-- What an opening parenthesis begins. -/
inductive GroupFront where
  /-- Nothing but flags, which are read by then. -/
  | switched (span : Span) (switches : Switches)
  | group (kind : GroupKind)
  deriving DecidableEq, Repr

def isNameFront (c : Char) : Bool := c == '_' || Text.isLetter c

def isNameChar (c : Char) : Bool :=
  isNameFront c || Text.isNumeric c || c == '.' || c == '[' || c == ']'

namespace Read

/-- The name of a group, up to its angle bracket; no two groups have one name. -/
def groupName : Read Unit := do
  let start ← place
  let name ← if (← peek).any isNameFront then takeWhile isNameChar else pure []
  let span := { start, stop := ← place }
  match ← peek with
  | none => wrongHere .nameUnclosed
  | some c =>
    if c != '>' then wrongNext .nameInvalid
    skip 1
    if name.isEmpty then wrong .nameEmpty span
    if let some earlier := (← get).names.lookup name then
      throw { flaw := .nameRepeated, span, earlier := some earlier }
    modify fun r => { r with names := (name, span) :: r.names }

def groupNumber : Read Nat := do
  modify fun r => { r with captured := r.captured + 1 }
  return (← get).captured

/-- Looks at the flags of a group one by one; `seen` are those before it, the last first, and `start` is
the place of the first. -/
def checkFlags (start : Nat) (seen : List Char) : List Char → Read Unit
  | [] => return ()
  | c :: cs => do
    let span := Span.one (start + seen.length)
    if c != '-' && (Flag.written.lookup c).isNone then wrong .flagUnknown span
    if seen.contains c then
      let earlier := Span.one (start + seen.reverse.idxOf c)
      throw { flaw := if c == '-' then .dashRepeated else .flagRepeated, span,
              earlier := some earlier }
    checkFlags start (c :: seen) cs

/-- The flags of a group, up to the mark behind them, and whether there are any. -/
def flags : Read (Switches × Bool) := do
  let start ← place
  let items ← takeWhile fun c => c != ':' && c != ')'
  checkFlags start [] items
  if ← atEnd then wrongHere .flagMissing
  if items.getLast? = some '-' then wrong .flagDangling (.one (start + items.length - 1))
  let switched (cs : List Char) : List Flag := cs.filterMap fun c => Flag.written.lookup c
  return ({ on := switched (items.takeWhile (· != '-'))
            off := switched (items.dropWhile (· != '-')) }, !items.isEmpty)

def groupFront : Read GroupFront := do
  let start ← place
  let _ ← step
  let inner ← place
  let looks := ["?=", "?!", "?<=", "?<!"].map fun text => (text, ())
  if (← takesOneOf looks).isSome then wrongFrom start .lookAround
  else if (← takesOneOf [("?P<", ()), ("?<", ())]).isSome then
    let number ← groupNumber
    groupName
    return .group (.captured number)
  else if ← takes "?" then
    if ← atEnd then wrong .groupUnclosed (.one start)
    let (switches, any) ← flags
    let whole := (← peek) = some ')'
    skip 1
    if !whole then return .group (.plain switches)
    if !any then wrong .nothingToRepeat (.here inner)
    return .switched { start, stop := ← place } switches
  else return .group (.captured (← groupNumber))

end Read

end BoxOffice.Pattern
