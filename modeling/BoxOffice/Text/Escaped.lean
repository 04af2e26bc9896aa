import BoxOffice.Text.Decimal
import BoxOffice.Text.Printable
/-!
# Texts written with escapes

`escaped` writes a text so that each of its characters can be seen: control characters, quotes and
the backslash get a backslash, other unprintable characters their code point in braces.  A
combining mark is escaped only where there is no character for it to combine with, at the front.
-/

namespace BoxOffice.Text

def codePointEscape (c : Char) : String := "\\u\x7b" ++ inBase 16 c.toNat ++ "\x7d"

/-- How one character is written; `atFront` says that none stands before it. -/
def escapedChar (atFront : Bool) (c : Char) : String :=
  if c = '\x00' then "\\0"
  else if c = '\t' then "\\t"
  else if c = '\r' then "\\r"
  else if c = '\n' then "\\n"
  else if c = '\\' || c = '"' || c = '\'' then String.ofList ['\\', c]
  else if (atFront && isMark c) || !isPrintable c then codePointEscape c
  else c.toString

/-- The text with every character that cannot be seen escaped. -/
def escaped (text : String) : String :=
  match text.toList with
  | [] => ""
  | c :: cs => escapedChar true c ++ String.join (cs.map (escapedChar false))

end BoxOffice.Text
