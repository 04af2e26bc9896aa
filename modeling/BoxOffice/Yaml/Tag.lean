import BoxOffice.Text.Utf8
import BoxOffice.Yaml.Scalar
/-!
# Tags

A tag says what a node is.  It is written in the characters of a URI, where a percent sign and two
hexadecimal digits write a byte.  Escaped bytes have to follow one another as they do in UTF-8, as far
as their number goes; overlong forms and surrogates are let through, so that a tag need not be text.

`Tag.read?` reads as much of a tag as there is at the front of a text.  A tag ends at its first zero
byte, whatever is written behind it.
-/

namespace BoxOffice.Yaml

abbrev Tag := List UInt8

def isNameChar (c : Char) : Bool := c.isAlphanum || c == '_' || c == '-'

def tagHandle? : List Char → Option (List Char × List Char)
  | '!' :: cs =>
    let (name, rest) := cs.span isNameChar
    match rest with
    | '!' :: rest => some ('!' :: name ++ ['!'], rest)
    | rest => some ('!' :: name, rest)
  | _ => none

namespace Tag

def ofString (text : String) : Tag := Text.Utf8.encode text

/-- The tag that says no more than that it is there. -/
def bare : Tag := ofString "!"

def isChar (verbatim : Bool) (c : Char) : Bool :=
  isNameChar c || ";/?:@&=+$.!~*'()%".toList.contains c || (verbatim && ",[]".toList.contains c)

def octet? : List Char → Option (UInt8 × List Char)
  | '%' :: cs => (hexNumber? 2 0 cs).map fun (n, rest) => (UInt8.ofNat n, rest)
  | _ => none

/-- How many bytes stand together behind this first one, itself included; `none` where it cannot be
the first. -/
def width? (first : UInt8) : Option Nat :=
  if first < 0x80 then some 1
  else if first < 0xC0 then none
  else if first < 0xE0 then some 2
  else if first < 0xF0 then some 3
  else if first < 0xF8 then some 4
  else none

/-- Escaped bytes that go on with a sequence, and what follows. -/
def continuations? : Nat → List Char → Option (Tag × List Char)
  | 0, cs => some ([], cs)
  | n + 1, cs => do
    let (b, rest) ← octet? cs
    if !Text.Utf8.isContinuation b then failure
    let (bytes, rest) ← continuations? n rest
    return (b :: bytes, rest)

def escaped? (cs : List Char) : Option (Tag × List Char) := do
  let (first, rest) ← octet? cs
  let (bytes, rest) ← continuations? ((← width? first) - 1) rest
  return (first :: bytes, rest)

/-- The bytes that are written here, and what follows; `n` bounds the characters that are left. -/
def bytesIn (verbatim : Bool) : Nat → List Char → Option (Tag × List Char)
  | n + 1, c :: cs =>
    if c == '%' then do
      let (bytes, rest) ← escaped? (c :: cs)
      let (more, rest) ← bytesIn verbatim n rest
      return (bytes ++ more, rest)
    else if isChar verbatim c then do
      let (more, rest) ← bytesIn verbatim n cs
      return (UInt8.ofNat c.toNat :: more, rest)
    else some ([], c :: cs)
  | _, cs => some ([], cs)

/-- A tag at the front of a text, and what follows it.  Between angle brackets, where it is
`verbatim`, a tag may hold a few characters more. -/
def read? (verbatim : Bool) (cs : List Char) : Option (Tag × List Char) :=
  (bytesIn verbatim cs.length cs).map fun (bytes, rest) => (bytes.takeWhile (· ≠ 0), rest)

/-- The name that a document gives with a tag of its own, `!name`, if it is text.  The tag that has
no name is its own. -/
def name? : Tag → Option String
  | 0x21 :: name => (Text.Utf8.decode (if name.isEmpty then bare else name)).toOption
  | _ => none

end Tag

end BoxOffice.Yaml
