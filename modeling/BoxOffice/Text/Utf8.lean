/-!
# UTF-8

`decode` turns bytes into text, or says where they stop being UTF-8 (`Utf8Fault`).  Which byte
sequences are texts is the library's own notion, that of `String.fromUTF8?`; `lead` looks at the
front of a byte sequence in order to place a fault and to measure it.  `lossy` shows any bytes as
text, with one `U+FFFD` for each maximal run that can begin no scalar.
-/

namespace BoxOffice.Text

/-- Where and how bytes stop being UTF-8. -/
inductive Utf8Fault where
  /-- From `index` on, `width` bytes that begin no scalar. -/
  | invalid (width index : Nat)
  /-- From `index` on, a scalar that the end of the bytes cuts short. -/
  | incomplete (index : Nat)
  deriving DecidableEq, Repr

def Utf8Fault.message : Utf8Fault → String
  | .invalid width index => s!"invalid utf-8 sequence of {width} bytes from index {index}"
  | .incomplete index => s!"incomplete utf-8 byte sequence from index {index}"

namespace Utf8

/-- What the front of a byte sequence is. -/
inductive Lead where
  /-- A whole scalar of this many bytes. -/
  | scalar (width : Nat)
  /-- This many bytes that begin no scalar. -/
  | broken (width : Nat)
  /-- A scalar that lacks its last bytes. -/
  | cut
  deriving DecidableEq, Repr

def isContinuation (b : UInt8) : Bool := 0x80 ≤ b && b ≤ 0xBF

/-- The bytes of a scalar with this first byte, and the least and the greatest second byte.
Overlong forms, surrogates and code points above `U+10FFFF` are left out. -/
def shape (first : UInt8) : Option (Nat × UInt8 × UInt8) :=
  if first < 0xC2 then none
  else if first < 0xE0 then some (2, 0x80, 0xBF)
  else if first = 0xE0 then some (3, 0xA0, 0xBF)
  else if first = 0xED then some (3, 0x80, 0x9F)
  else if first < 0xF0 then some (3, 0x80, 0xBF)
  else if first = 0xF0 then some (4, 0x90, 0xBF)
  else if first < 0xF4 then some (4, 0x80, 0xBF)
  else if first = 0xF4 then some (4, 0x80, 0x8F)
  else none

/-- The continuation bytes that are still missing after `seen` of `width` bytes. -/
def continuations (width : Nat) : Nat → List UInt8 → Lead
  | seen, [] => if seen = width then .scalar width else .cut
  | seen, b :: bs =>
    if seen = width then .scalar width
    else if isContinuation b then continuations width (seen + 1) bs
    else .broken seen

def lead : List UInt8 → Lead
  | [] => .cut
  | first :: bs =>
    if first < 0x80 then .scalar 1
    else match shape first, bs with
      | none, _ => .broken 1
      | some _, [] => .cut
      | some (width, least, greatest), second :: bs =>
        if second < least || greatest < second then .broken 1 else continuations width 2 bs

/-- The first fault at `index` or later, the next `skip` bytes being known to be good.  Bytes
without a fault are taken to break off at their end. -/
def firstFaultFrom : Nat → Nat → List UInt8 → Utf8Fault
  | index, _, [] => .incomplete index
  | index, skip + 1, _ :: bs => firstFaultFrom (index + 1) skip bs
  | index, 0, b :: bs =>
    match lead (b :: bs) with
    | .scalar width => firstFaultFrom (index + 1) (width - 1) bs
    | .broken width => .invalid width index
    | .cut => .incomplete index

def firstFault (bytes : List UInt8) : Utf8Fault := firstFaultFrom 0 0 bytes

/-- The text that the bytes write, or the first place where they write none. -/
def decode (bytes : List UInt8) : Except Utf8Fault String :=
  match String.fromUTF8? bytes.toByteArray with
  | some text => .ok text
  | none => .error (firstFault bytes)

def encode (text : String) : List UInt8 := text.toUTF8.data.toList

def replacement : List UInt8 := [0xEF, 0xBF, 0xBD]

/-- What is done with the next bytes while showing a byte sequence. -/
inductive Skip where
  | keep (count : Nat)
  | drop (count : Nat)

def lossyBytes : Skip → List UInt8 → List UInt8
  | _, [] => []
  | .keep (n + 1), b :: bs => b :: lossyBytes (.keep n) bs
  | .drop (n + 1), _ :: bs => lossyBytes (.drop n) bs
  | _, b :: bs =>
    match lead (b :: bs) with
    | .scalar width => b :: lossyBytes (.keep (width - 1)) bs
    | .broken width => replacement ++ lossyBytes (.drop (width - 1)) bs
    | .cut => replacement

/-- Any bytes as text; what is not UTF-8 shows as `U+FFFD`. -/
def lossy (bytes : List UInt8) : String :=
  (String.fromUTF8? (lossyBytes (.keep 0) bytes).toByteArray).getD ""

/-! ## Small laws -/

/-- A text is read back from its bytes. -/
theorem decode_encode (text : String) : decode (encode text) = .ok text := by
  have same : (encode text).toByteArray = text.toUTF8 := ByteArray.ext (by simp [encode])
  have read : String.fromUTF8? text.toUTF8 = some text := dif_pos text.isValidUTF8
  unfold decode
  rw [same, read]

/-- Bytes that write a text are the bytes of that text. -/
theorem encode_of_decode {bytes : List UInt8} {text : String} (h : decode bytes = .ok text) :
    encode text = bytes := by
  unfold decode String.fromUTF8? at h
  split at h
  · rename_i read found
    cases h
    split at found
    · cases found
      show bytes.toByteArray.data.toList = bytes
      rw [List.data_toByteArray]
    · cases found
  · cases h

end Utf8

end BoxOffice.Text
