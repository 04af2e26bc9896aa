import BoxOffice.Platform
/-!
# Numbers as bytes

A number on the wire has a fixed width and one of three byte orders.  `write` and `read` are inverse
to each other on the numbers that fit the width (`read_write`, `write_read`).
-/

namespace BoxOffice

/-- In which order the bytes of a number are sent. -/
inductive ByteOrder where
  /-- The order of the machine. -/
  | native
  | little
  | big
  deriving DecidableEq, Repr, Inhabited

/-- How many numbers a field of `width` bytes can hold. -/
def fieldRange : (width : Nat) → Nat
  | 0 => 1
  | width + 1 => 256 * fieldRange width

/-- The `width` low bytes of a number, least significant first. -/
def littleBytes : (width value : Nat) → List UInt8
  | 0, _ => []
  | width + 1, value => UInt8.ofNat value :: littleBytes width (value / 256)

/-- The number whose bytes these are, least significant first. -/
def littleValue : List UInt8 → Nat
  | [] => 0
  | b :: bs => b.toNat + 256 * littleValue bs

@[simp] theorem length_littleBytes (width value : Nat) :
    (littleBytes width value).length = width := by
  induction width generalizing value with
  | zero => rfl
  | succ width ih => simp [littleBytes, ih]

theorem littleValue_littleBytes {width value : Nat} (h : value < fieldRange width) :
    littleValue (littleBytes width value) = value := by
  induction width generalizing value with
  | zero => simp_all [littleBytes, littleValue, fieldRange]
  | succ width ih =>
    have hd : value / 256 < fieldRange width := by
      rw [fieldRange] at h
      exact Nat.div_lt_of_lt_mul h
    simp only [littleBytes, littleValue, ih hd, UInt8.toNat_ofNat']
    omega

theorem littleBytes_littleValue (bs : List UInt8) :
    littleBytes bs.length (littleValue bs) = bs := by
  induction bs with
  | nil => rfl
  | cons b bs ih =>
    have hb := b.toNat_lt
    have hq : (b.toNat + 256 * littleValue bs) / 256 = littleValue bs := by omega
    have hr : UInt8.ofNat (b.toNat + 256 * littleValue bs) = b := by
      apply UInt8.toNat_inj.1
      rw [UInt8.toNat_ofNat']
      omega
    simp only [littleValue, List.length_cons, littleBytes, hq, hr, ih]

theorem littleValue_lt (bs : List UInt8) : littleValue bs < fieldRange bs.length := by
  induction bs with
  | nil => simp [littleValue, fieldRange]
  | cons b bs ih =>
    have hb := b.toNat_lt
    simp only [littleValue, List.length_cons, fieldRange]
    omega

namespace ByteOrder

variable [Platform]

/-- Whether the least significant byte stands first. -/
def isLittle : ByteOrder → Bool
  | .native => Platform.littleEndian
  | .little => true
  | .big => false

/-- The bytes of a number in a field of this width. -/
def write (o : ByteOrder) (width value : Nat) : List UInt8 :=
  if o.isLittle then littleBytes width value else (littleBytes width value).reverse

/-- The number in a field. -/
def read (o : ByteOrder) (bytes : List UInt8) : Nat :=
  littleValue (if o.isLittle then bytes else bytes.reverse)

@[simp] theorem length_write (o : ByteOrder) (width value : Nat) :
    (o.write width value).length = width := by
  unfold write
  split
  · exact length_littleBytes width value
  · rw [List.length_reverse, length_littleBytes]

theorem read_write (o : ByteOrder) {width value : Nat} (h : value < fieldRange width) :
    o.read (o.write width value) = value := by
  unfold read write
  split
  · exact littleValue_littleBytes h
  · rw [List.reverse_reverse, littleValue_littleBytes h]

theorem write_read (o : ByteOrder) (bytes : List UInt8) :
    o.write bytes.length (o.read bytes) = bytes := by
  unfold read write
  split
  · exact littleBytes_littleValue bytes
  · have back := littleBytes_littleValue bytes.reverse
    rw [List.length_reverse] at back
    rw [back, List.reverse_reverse]

theorem read_lt (o : ByteOrder) (bytes : List UInt8) : o.read bytes < fieldRange bytes.length := by
  unfold read
  split
  · exact littleValue_lt bytes
  · have bound := littleValue_lt bytes.reverse
    rwa [List.length_reverse] at bound

def word32 (o : ByteOrder) (n : UInt32) : List UInt8 := o.write 4 n.toNat

/-- A signed 32-bit field, in two's complement. -/
def int32 (o : ByteOrder) (n : Int32) : List UInt8 := o.word32 n.toUInt32

def word64 (o : ByteOrder) (n : UInt64) : List UInt8 := o.write 8 n.toNat

@[simp] theorem length_word32 (o : ByteOrder) (n : UInt32) : (o.word32 n).length = 4 :=
  length_write ..

@[simp] theorem length_int32 (o : ByteOrder) (n : Int32) : (o.int32 n).length = 4 :=
  length_write ..

@[simp] theorem length_word64 (o : ByteOrder) (n : UInt64) : (o.word64 n).length = 8 :=
  length_write ..

end ByteOrder

end BoxOffice
