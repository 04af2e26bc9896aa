import BoxOffice.Yaml.Token
/-!
# Nodes

What a document says: scalars, sequences, mappings whose pairs stand in order, and aliases.

An anchor gives the node behind it a number, which is that of the names that were anchors before;
a name that comes again counts once and its new number stays with it.  An alias has the number that
its name has at that place, and stands for the node that is the last in the whole document to have
this number: `Document.follow` finds it.

`Document.ofText?` reads a text with at most one document.  It gives nothing where the text is no
document, and `none` for a document where there is not even an empty scalar.
-/

namespace BoxOffice.Yaml

inductive Node where
  | scalar (tag : Option Tag) (style : Style) (text : String)
  | sequence (tag : Option Tag) (items : List Node)
  | mapping (tag : Option Tag) (pairs : List (Node × Node))
  | alias (number : Nat)
  deriving Repr, Inhabited

/-- The scalar that is not there. -/
def Node.missing : Node := .scalar none .plain ""

structure Document where
  root : Node
  /-- The nodes behind anchors with their numbers, in the order in which they begin. -/
  marked : List (Nat × Node) := []

namespace Document

/-- What a node stands for: an alias for the last node with its number, any other for itself. -/
def follow (d : Document) : Node → Node
  | .alias number => (d.marked.reverse.lookup number).getD .missing
  | node => node

end Document

structure Composer where
  tokens : List Token
  /-- What the tags with each handle begin with. -/
  handles : List (String × Tag) := []
  /-- The number that each anchor has, the latest first. -/
  anchors : List (String × Nat) := []
  /-- The nodes behind anchors with their numbers, in the order in which they begin. -/
  marked : List (Nat × Node) := []

/-- A step that may find that the tokens make no document. -/
abbrev Compose := StateT Composer Option

namespace Compose

def peek : Compose (Option Token) := return (← get).tokens.head?

def advance : Compose Unit := modify fun s => { s with tokens := s.tokens.tail }

/-- Passes over the next token if it is this one, and says whether it was. -/
def takes (t : Token) : Compose Bool := do
  if (← peek) == some t then
    advance
    return true
  else return false

def sees (ts : List Token) : Compose Bool := return (← peek).any ts.contains

def wholeTag (handle : String) (rest : Tag) : Compose Tag := do
  if handle.isEmpty then return rest
  else match (← get).handles.lookup handle with
    | some start => return start ++ rest
    | none => failure

def properties : Compose (Option Tag × Option String) := do
  match ← peek with
  | some (.anchor name) =>
    advance
    match ← peek with
    | some (.tag handle rest) =>
      advance
      return (some (← wholeTag handle rest), some name)
    | _ => return (none, some name)
  | some (.tag handle rest) =>
    advance
    let tag ← wholeTag handle rest
    match ← peek with
    | some (.anchor name) =>
      advance
      return (some tag, some name)
    | _ => return (some tag, none)
  | _ => return (none, none)

/-- Gives a number to an anchor. -/
def number (name : String) : Compose Nat := do
  let s ← get
  let number := s.anchors.length
  set { s with anchors := (name, number) :: s.anchors.filter (·.1 != name) }
  return number

/-- The node behind an anchor, which `make` composes. -/
def behind (anchor : Option String) (make : Compose Node) : Compose Node := do
  match anchor with
  | none => make
  | some name =>
    let number ← number name
    let place := (← get).marked.length
    let node ← make
    modify fun s => { s with marked := s.marked.insertIdx place (number, node) }
    return node

def aliased (name : String) : Compose Node := do
  match (← get).anchors.lookup name with
  | none => failure
  | some number => return .alias number

mutual

/-- The next node.  A block collection may begin where `block` holds, and a sequence whose dashes
have no indentation of their own where `bare` holds.  Each step of `n` takes a token or stops. -/
def node (block bare : Bool) : Nat → Compose Node
  | 0 => failure
  | n + 1 => do
    if let some (.alias name) ← peek then
      advance
      return ← aliased name
    let (tag, anchor) ← properties
    behind anchor do
      match ← peek with
      | some (.scalar style text) =>
        advance
        return .scalar tag style text
      | some .flowSequenceStart =>
        advance
        .sequence tag <$> flowItems n true
      | some .flowMappingStart =>
        advance
        .mapping tag <$> flowPairs n true
      | some .blockEntry =>
        if bare then .sequence tag <$> bareItems n
        else if tag.isSome || anchor.isSome then return .scalar tag .plain ""
        else failure
      | some .blockSequenceStart =>
        if !block then failure
        advance
        .sequence tag <$> blockItems n
      | some .blockMappingStart =>
        if !block then failure
        advance
        .mapping tag <$> blockPairs n
      | _ =>
        if tag.isSome || anchor.isSome then return .scalar tag .plain ""
        else failure

/-- A node, unless one of these tokens shows that there is none. -/
def nodeUnless (ends : List Token) (block bare : Bool) : Nat → Compose Node
  | 0 => failure
  | n + 1 => do
    if ← sees ends then return .missing
    else node block bare n

def blockItems : Nat → Compose (List Node)
  | 0 => failure
  | n + 1 => do
    if ← takes .blockEntry then
      let item ← nodeUnless [.blockEntry, .blockEnd] true false n
      return item :: (← blockItems n)
    else if ← takes .blockEnd then return []
    else failure

def bareItems : Nat → Compose (List Node)
  | 0 => failure
  | n + 1 => do
    if ← takes .blockEntry then
      let item ← nodeUnless [.blockEntry, .key, .value, .blockEnd] true false n
      return item :: (← bareItems n)
    else return []

def blockPairs : Nat → Compose (List (Node × Node))
  | 0 => failure
  | n + 1 => do
    if ← takes .key then
      let key ← nodeUnless [.key, .value, .blockEnd] true true n
      let value ←
        if ← takes .value then nodeUnless [.key, .value, .blockEnd] true true n
        else pure .missing
      return (key, value) :: (← blockPairs n)
    else if ← takes .blockEnd then return []
    else failure

/-- The items of a sequence between brackets.  Where a key is announced and does not come, the token that
stands in its place is passed over. -/
def flowItems : Nat → (first : Bool) → Compose (List Node)
  | 0, _ => failure
  | n + 1, first => do
    if ← takes .flowSequenceEnd then return []
    if !first && !(← takes .flowEntry) then failure
    if ← takes .flowSequenceEnd then return []
    if ← takes .key then
      let key ←
        if ← sees [.value, .flowEntry, .flowSequenceEnd] then
          advance
          pure .missing
        else node false false n
      let value ←
        if ← takes .value then nodeUnless [.flowEntry, .flowSequenceEnd] false false n
        else pure .missing
      return .mapping none [(key, value)] :: (← flowItems n false)
    else
      let item ← node false false n
      return item :: (← flowItems n false)

def flowPairs : Nat → (first : Bool) → Compose (List (Node × Node))
  | 0, _ => failure
  | n + 1, first => do
    if ← takes .flowMappingEnd then return []
    if !first && !(← takes .flowEntry) then failure
    if ← takes .flowMappingEnd then return []
    if ← takes .key then
      let key ← nodeUnless [.value, .flowEntry, .flowMappingEnd] false false n
      let value ←
        if ← takes .value then nodeUnless [.flowEntry, .flowMappingEnd] false false n
        else pure .missing
      return (key, value) :: (← flowPairs n false)
    else
      let key ← node false false n
      return (key, .missing) :: (← flowPairs n false)

end

/-- The handles that need no directive. -/
def usualHandles : List (String × Tag) :=
  [("!", .ofString "!"), ("!!", .ofString "tag:yaml.org,2002:")]

/-- Reads the directives before a document; at most one says the version, which has to be 1.1 or 1.2,
and no handle is said twice. -/
def directives : (versioned : Bool) → List (String × Tag) → List Token →
    Option (List (String × Tag) × List Token)
  | versioned, handles, .version major minor :: ts =>
    if versioned || major != 1 || (minor != 1 && minor != 2) then none
    else directives true handles ts
  | versioned, handles, .tagStart handle start :: ts =>
    if (handles.lookup handle).isSome then none
    else directives versioned (handles ++ [(handle, start)]) ts
  | _, handles, ts => some (handles ++ usualHandles, ts)

def document? (ts : List Token) : Option (Option Document) := do
  let (handles, rest) ← directives false [] ts
  let composed (tokens : List Token) : Option (Option Document × List Token) := do
    let (root, s) ← (node true false (3 * ts.length + 3)).run { tokens, handles }
    return (some { root, marked := s.marked }, s.tokens)
  let (document, rest) ← match ts, rest with
    | [], _ => some (none, [])
    | _, .documentStart :: rest =>
      if rest.isEmpty || rest.head? == some .documentEnd then
        some (some { root := .missing }, rest)
      else composed rest
    | t :: _, _ =>
      match t with
      | .version .. | .tagStart .. => none
      | _ => composed rest
  if rest.all (· == .documentEnd) then return document else failure

end Compose

def Document.ofText? (text : String) : Option (Option Document) := do
  Compose.document? (← tokens? text)

end BoxOffice.Yaml
