import BoxOffice.Pattern.Expression
/-!
# What a pattern means

`Tree.meaning` works out a pattern under flags that change from place to place.  Patterns are about
characters, unless a flag says that they are about bytes; then they must still not stand for bytes that
are not text.  Of characters beyond ASCII nothing is known but their numbers: neither their kinds, nor
their properties, nor their cases.
-/

namespace BoxOffice.Pattern

structure Flags where
  anyCase : Bool := false
  lines : Bool := false
  dotAll : Bool := false
  swapped : Bool := false
  characters : Bool := true
  returns : Bool := false
  deriving DecidableEq, Repr

def Flags.after (f : Flags) (s : Switches) : Flags where
  anyCase := s.after f.anyCase .anyCase
  lines := s.after f.lines .lines
  dotAll := s.after f.dotAll .dotAll
  swapped := s.after f.swapped .swapped
  characters := s.after f.characters .characters
  returns := s.after f.returns .returns

/-- The code point of the last character that a set can hold. -/
def Flags.top (f : Flags) : Nat := if f.characters then lastCharacter else lastByte

def misread {α : Type} (flaw : Flaw) (span : Span) : Except Misreading α := .error { flaw, span }

/-! ## Properties -/

/-- A name as it is compared: without "is" in front, without case, and without what does not count. -/
def plainName (name : List Char) : List Char :=
  let name := if (name.take 2).map Char.toLower = ['i', 's'] then name.drop 2 else name
  (name.filter fun c => c.toNat < 0x80 && !" _-".contains c).map Char.toLower

/-- What is wrong with asking for a property: no property is known.  Some names are never those of a
property, but of one of its values. -/
def Property.flaw (p : Property) : Flaw :=
  if p.name.contains ':' || p.name.contains '=' then .propertyUnknown
  else if ["cf", "sc", "lc"].contains (String.ofList (plainName p.name)) then .propertyValueUnknown
  else .propertyUnknown

/-- A property never means anything. -/
def Property.refuse {α : Type} (f : Flags) (p : Property) : Except Misreading α :=
  misread (if f.characters then p.flaw else .notAscii) p.span

/-! ## Classes -/

/-- The set with both cases of its letters, if both are asked for. -/
def Codes.inAnyCase (f : Flags) (span : Span) (s : Codes) : Except Misreading Codes :=
  if !f.anyCase then .ok s
  else if !f.characters then .ok s.foldAscii
  else if s.folded || s.ranges.isEmpty then .ok { s with folded := true }
  else misread .caseUnknown span

/-- The set, or what is not in it, as a set that a note can be searched for. -/
def Codes.asText (f : Flags) (span : Span) (negated : Bool) (s : Codes) : Except Misreading Codes :=
  let s := if negated then s.negate f.top else s
  if f.characters || s.isAscii then .ok s else misread .notText span

/-- What a class with these parts stands for. -/
def Codes.ofClass (f : Flags) (span : Span) (negated : Bool) (s : Codes) : Except Misreading Codes := do
  (← s.inAnyCase f span).asText f span negated

def KindOf.codes (f : Flags) (k : KindOf) : Except Misreading Codes :=
  if f.characters then misread .kindUnknown k.span else k.kind.codes.asText f k.span k.negated

def Literal.code (f : Flags) (l : Literal) : Except Misreading Nat :=
  if f.characters || l.char.toNat < 0x80 then .ok l.char.toNat
  else misread (if l.asByte then .notText else .notAscii) l.span

mutual

def ClassTree.addTo (f : Flags) (s : Codes) : ClassTree → Except Misreading Codes
  | .empty _ => .ok s
  | .literal l => do
    let code ← l.code f
    return s.push ⟨code, code⟩
  | .range _ first last => do
    let low ← first.code f
    return s.push ⟨low, ← last.code f⟩
  | .named k => return s.union (← k.kind.codes.ofClass f k.span k.negated)
  | .escaped k => return s.union (← k.codes f)
  | .property p => p.refuse f
  | .bracketed span negated inner => do
    return s.union (← (← inner.addTo f {}).ofClass f span negated)
  | .union _ items => addAllTo f s items
  | .combined _ operation first second => do
    let a ← first.addTo f {}
    let b ← second.addTo f {}
    let b ← b.inAnyCase f second.span
    let a ← a.inAnyCase f first.span
    return s.union (a.combine operation b)

def addAllTo (f : Flags) (s : Codes) : List ClassTree → Except Misreading Codes
  | [] => .ok s
  | item :: items =>
    match item.addTo f s with
    | .ok s => addAllTo f s items
    | .error m => .error m

end

/-! ## Parts -/

def Literal.meaning (f : Flags) (l : Literal) : Except Misreading Expression :=
  if !f.characters && l.asByte && 0x80 ≤ l.char.toNat then misread .notText l.span
  else if !f.anyCase then .ok (.text [l.char])
  else if f.characters then misread .caseUnknown l.span
  else if l.char.isAlpha then
    .ok (.ofCodes (.foldAscii { Codes.single l.char with folded := false }) true)
  else .ok (.text [l.char])

/-- What a dot stands for: any character, but not what ends a line unless a flag says so. -/
def dotMeaning (f : Flags) (span : Span) : Except Misreading Expression :=
  if !f.characters then misread .notText span
  else
    let ends : List CodeRange :=
      if f.dotAll then [] else if f.returns then [⟨0xA, 0xA⟩, ⟨0xD, 0xD⟩] else [⟨0xA, 0xA⟩]
    .ok (.ofCodes ((Codes.ofRanges ends).negate f.top) false)

def Edge.look (f : Flags) : Edge → Look
  | .lineStart => if f.lines then ⟨.lineStart, f.returns⟩ else ⟨.textStart, false⟩
  | .lineStop => if f.lines then ⟨.lineStop, f.returns⟩ else ⟨.textStop, false⟩
  | .textStart => ⟨.textStart, false⟩
  | .textStop => ⟨.textStop, false⟩
  | e => ⟨e, f.characters⟩

mutual

/-- What a pattern means under flags, and the flags that hold behind it. -/
def Tree.meaning (f : Flags) : Tree → Except Misreading (Expression × Flags)
  | .empty _ => .ok (.empty, f)
  | .switched _ switches => .ok (.empty, f.after switches)
  | .literal l => return (← l.meaning f, f)
  | .dot span => return (← dotMeaning f span, f)
  | .edge _ e => .ok (.look (e.look f), f)
  | .escaped k => return (.ofCodes (← k.codes f) true, f)
  | .property p => p.refuse f
  | .bracketed span negated inner => do
    let codes ← (← inner.addTo f {}).ofClass f span negated
    return (.ofCodes codes !f.characters, f)
  | .repeated _ times part => do
    let (e, f) ← part.meaning f
    return (.ofRepeat { times with greedy := times.greedy != f.swapped } e, f)
  | .group _ (.captured number) inner => do
    let (e, _) ← inner.meaning f
    return (.captured number e, f)
  | .group _ (.plain switches) inner => do
    let (e, _) ← inner.meaning (f.after switches)
    return (e, f)
  | .sequence _ parts => do
    let (es, f) ← meanings f parts
    return (.ofParts es, f)
  | .choice _ branches => do
    let (es, f) ← meanings f branches
    return (.ofBranches es, f)

def meanings (f : Flags) : List Tree → Except Misreading (List Expression × Flags)
  | [] => .ok ([], f)
  | t :: ts => do
    let (e, f) ← t.meaning f
    let (es, f) ← meanings f ts
    return (e :: es, f)

end

end BoxOffice.Pattern
