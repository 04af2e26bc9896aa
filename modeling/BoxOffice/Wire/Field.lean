import BoxOffice.Wire.Frame
/-!
# Fields

A message is a sequence of fields without anything between them.  `Field.put` adds one field to a
message in the making, unless it is a text that does not fit its field.
`FieldType.take` takes a field of a known type from a frame.
-/

namespace BoxOffice

open Text

variable [Platform]

/-- The bytes of a text in a field of `width` bytes: the text, then zero bytes, at least one. -/
def textField (text : String) (width : Nat) : Except Fault (List UInt8) :=
  let bytes := Utf8.encode text
  if width ≤ bytes.length then
    .error (.endpointName (.textTooLong text bytes.length (width - 1)))
  else if bytes.contains 0 then .error (.endpointName (.holdsZero text))
  else .ok (bytes ++ List.replicate (width - bytes.length) 0)

inductive Field where
  | word8 (n : UInt8)
  | word32 (n : UInt32)
  | int32 (n : Int32)
  | word64 (n : UInt64)
  | text (value : String) (width : Nat)
  deriving DecidableEq, Repr

/-- A field without its value. -/
inductive FieldType where
  | word8
  | word32
  | int32
  | word64
  | text (width : Nat)
  deriving DecidableEq, Repr

namespace Field

def type : Field → FieldType
  | .word8 _ => .word8
  | .word32 _ => .word32
  | .int32 _ => .int32
  | .word64 _ => .word64
  | .text _ width => .text width

def encode (order : ByteOrder) : Field → Except Fault (List UInt8)
  | .word8 n => .ok [n]
  | .word32 n => .ok (order.word32 n)
  | .int32 n => .ok (order.int32 n)
  | .word64 n => .ok (order.word64 n)
  | .text value width => textField value width

/-- Puts one more field at the end of a message. -/
def put (order : ByteOrder) (f : Field) : Attempt (List UInt8) Unit := do
  let bytes ← .settled (f.encode order)
  .change (· ++ bytes)

end Field

namespace FieldType

def width : FieldType → Nat
  | .word8 => 1
  | .word32 | .int32 => 4
  | .word64 => 8
  | .text width => width

def take : FieldType → Attempt Frame Field
  | .word8 => do return .word8 (← Frame.word8)
  | .word32 => do return .word32 (← Frame.word32)
  | .int32 => do return .int32 (← Frame.int32)
  | .word64 => do return .word64 (← Frame.word64)
  | .text width => do return .text (← Frame.text width) width

end FieldType

end BoxOffice
