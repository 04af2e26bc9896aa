import BoxOffice.Stream.Source
import BoxOffice.Wire.ByteOrder
/-!
# Frames

A frame is a block of fields that has been received whole.  Fields are taken from its front.  Taking
a field that is wider than what is left fails and takes nothing; a text field is gone once its width
was there, even if it holds no text.

`Source.frame` receives a frame, and `Source.fields` also takes its fields.
-/

namespace BoxOffice

open Text

variable [Platform]

/-- The fields that are still to be taken. -/
structure Frame where
  order : ByteOrder
  bytes : List UInt8
  deriving DecidableEq, Repr

namespace Frame

def raw (width : Nat) : Attempt Frame (List UInt8) := fun f =>
  let piece := f.bytes.take width
  if piece.length < width then (.error (.protocol (.shortFrame f.bytes.length width)), f)
  else (.ok piece, { f with bytes := f.bytes.drop width })

def number (width : Nat) : Attempt Frame Nat := fun f =>
  match raw width f with
  | (.ok piece, rest) => (.ok (f.order.read piece), rest)
  | (.error fault, rest) => (.error fault, rest)

def word8 : Attempt Frame UInt8 := do return UInt8.ofNat (← number 1)

def word32 : Attempt Frame UInt32 := do return UInt32.ofNat (← number 4)

/-- A signed number, in two's complement. -/
def int32 : Attempt Frame Int32 := do return (← word32).toInt32

def word64 : Attempt Frame UInt64 := do return UInt64.ofNat (← number 8)

/-- The text before the first zero byte of a field of `width` bytes. -/
def text (width : Nat) : Attempt Frame String := do
  let piece ← raw width
  if piece.contains 0 then
    match Utf8.decode (piece.takeWhile (· ≠ 0)) with
    | .ok text => return text
    | .error fault => .fail (.protocol (.notText fault))
  else .fail (.protocol (.unterminated width))

/-- `count` values of one kind in order, after those in `before`, which stand backwards. -/
def manyAfter {α : Type} (take : Attempt Frame α) : Nat → List α → Attempt Frame (List α)
  | 0, before, f => (.ok before.reverse, f)
  | count + 1, before, f =>
    match take f with
    | (.ok a, f) => manyAfter take count (a :: before) f
    | (.error fault, f) => (.error fault, f)

/-- `count` values of one kind, in order; `width` bytes of memory are needed for each. -/
def many {α : Type} (take : Attempt Frame α) (width count : Nat) : Attempt Frame (List α) :=
  match Memory.refusal? count width with
  | some fault => .fail (.allocation (.fieldsMemory count fault))
  | none => manyAfter take count []

end Frame

namespace Source

/-- Receives a frame of `length` bytes, for which memory has to be there. -/
def frame (order : ByteOrder) (length : Nat) : Attempt Source Frame :=
  match Memory.refusal? length 1 with
  | some fault => .fail (.allocation (.frameMemory length fault))
  | none => do return { order, bytes := ← exactly length }

def fields {α : Type} (order : ByteOrder) (length : Nat) (take : Attempt Frame α) :
    Attempt Source α := fun s =>
  match frame order length s with
  | (.ok f, rest) => ((take f).1, rest)
  | (.error fault, rest) => (.error fault, rest)

theorem lightens_frame (order : ByteOrder) (length : Nat) : Lightens (frame order length) := by
  unfold frame
  split
  · exact .fail _
  · exact (lightens_exactly length).bind fun _ => .pure _

theorem lightens_fields {α : Type} (order : ByteOrder) (length : Nat) (take : Attempt Frame α) :
    Lightens (fields order length take) := by
  intro s
  have h := lightens_frame order length s
  simp only [Attempt.run, fields] at h ⊢
  split <;> simp_all

end Source

end BoxOffice
