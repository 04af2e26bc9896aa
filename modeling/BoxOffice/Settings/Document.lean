import BoxOffice.Settings.Basic
import BoxOffice.Yaml.Node
/-!
# Settings in a document

Settings are written as a YAML mapping with the keys `log_level`, `server` and `client`, the last two
of which have mappings as their values.  Keys that are left out, and mappings that are left empty,
leave the usual settings; keys that mean nothing are passed over; a key that means something must not
come twice.  `Settings.ofText?` reads such a document.
-/

namespace BoxOffice.Settings

open Yaml Text

def wordInBase? (base : Nat) (cs : List Char) : Option UInt64 :=
  let digit? (c : Char) : Option Nat := (hexValue? c).filter (· < base)
  if cs.isEmpty then none
  else
    match cs.mapM digit? with
    | none => none
    | some ds =>
      let n := ds.foldl (fun n d => base * n + d) 0
      if n < UInt64.size then some (UInt64.ofNat n) else none

/-- A number, perhaps behind a `+`: hexadecimal behind `0x`, octal behind `0o`, binary behind `0b`, and
otherwise decimal without a zero in front. -/
def word? (cs : List Char) : Option UInt64 :=
  match if cs.head? = some '+' then cs.tail else cs with
  | '0' :: 'x' :: digits => wordInBase? 16 digits
  | '0' :: 'o' :: digits => wordInBase? 8 digits
  | '0' :: 'b' :: digits => wordInBase? 2 digits
  | '0' :: _ :: _ => none
  | digits => wordInBase? 10 digits

def numberTag : Tag := .ofString "tag:yaml.org,2002:int"

def nothingTag : Tag := .ofString "tag:yaml.org,2002:null"

def isNothing (text : String) : Bool := ["~", "null", "Null", "NULL"].contains text

/-- A number is written plainly; on lines of its own it needs a tag that says so. -/
def number? : Node → Option UInt64
  | .scalar tag style text =>
    if style = .plain ∨ (style = .literal ∧ tag = some numberTag) then word? text.toList else none
  | _ => none

/-- A byte order is named by a scalar, or by the name in its tag, if there is one; then the scalar has
to say nothing. -/
def order? : Node → Option ByteOrder
  | .scalar tag style text =>
    match tag.bind Tag.name? with
    | none => named? text
    | some name =>
      if style = .plain ∧ (text.isEmpty ∨ isNothing text) then named? name else none
  | _ => none
where
  /-- The byte order with a name. -/
  named? (name : String) : Option ByteOrder :=
    [("native", ByteOrder.native), ("little", .little), ("big", .big)].lookup name

/-- A text that may be left out.  Whatever the scalar looks like it is the text, unless it is plain
and says nothing. -/
def text? : Node → Option (Option String)
  | .scalar none .plain text => if text.isEmpty ∨ isNothing text then some none else some (some text)
  | .scalar (some tag) .plain text =>
    if tag = nothingTag then (if isNothing text then some none else none) else some (some text)
  | .scalar _ _ text => some (some text)
  | _ => none

/-- The pairs of a mapping, or of the scalar that is left out in its place, aliases being followed. -/
def fields? (d : Document) (n : Node) : Option (List (String × Node)) :=
  match d.follow n with
  | .mapping _ pairs => pairs.mapM fun (key, value) =>
    match d.follow key with
    | .scalar _ _ name => some (name, d.follow value)
    | _ => none
  | .scalar _ .plain "" => some []
  | _ => none

/-- The value of a key, read as `read` says; `usual` where the key is left out. -/
def field? {α : Type} (fields : List (String × Node)) (key : String) (read : Node → Option α)
    (usual : α) : Option α :=
  match fields.filter (·.1 == key) with
  | [] => some usual
  | [(_, value)] => read value
  | _ => none

def office? (d : Document) (n : Node) : Option OfficeSettings := do
  let fields ← fields? d n
  let usual : OfficeSettings := {}
  return { usual with
    workers := ← field? fields "workers" number? usual.workers
    accessDelay := ← field? fields "access_delay_us" number? usual.accessDelay
    maxReservation := ← field? fields "max_reservation_size" number? usual.maxReservation
    maxEventSeats := ← field? fields "max_event_seats" number? usual.maxEventSeats
    order := ← field? fields "byte_order" order? usual.order }

def client? (d : Document) (n : Node) : Option ClientSettings := do
  let fields ← fields? d n
  let usual : ClientSettings := {}
  return {
    order := ← field? fields "byte_order" order? usual.order
    maxReservation := ← field? fields "max_reservation_size" number? usual.maxReservation }

def ofDocument? (d : Document) : Option Settings := do
  let fields ← fields? d d.root
  let usual : Settings := {}
  return {
    logLevel := ← field? fields "log_level" text? usual.logLevel
    office := ← field? fields "server" (office? d) usual.office
    client := ← field? fields "client" (client? d) usual.client }

/-- The settings that a text says; a text without a document says nothing new. -/
def ofText? (text : String) : Option Settings :=
  match Document.ofText? text with
  | none => none
  | some none => some {}
  | some (some d) => ofDocument? d

end BoxOffice.Settings
