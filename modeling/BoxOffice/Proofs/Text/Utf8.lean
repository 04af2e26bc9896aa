import BoxOffice.Text.Utf8
import Mathlib.Data.List.Induction
/-!
# One more character

No byte of a character that takes several bytes is an ASCII character.  So a text and an ASCII
character behind it are read as that, and bytes that are no text do not become one by an ASCII
character behind them (`Utf8.decode_concat`).
-/

namespace BoxOffice.Text.Utf8

variable {bytes front : List UInt8} {text : String} {c : Char}

theorem encode_eq (text : String) : encode text = text.toList.flatMap String.utf8EncodeChar := by
  unfold encode
  rw [String.toUTF8_eq_toByteArray, ← String.utf8Encode_toList, List.utf8Encode.eq_1,
    List.data_toByteArray]

/-- Bytes are read as the text that is written with them. -/
theorem decode_eq_ok_iff : decode bytes = .ok text ↔ encode text = bytes := by
  constructor
  · exact encode_of_decode
  · rintro rfl
    exact decode_encode text

/-- An ASCII character is one byte. -/
theorem utf8EncodeChar_eq (ascii : c.toNat < 0x80) :
    String.utf8EncodeChar c = [UInt8.ofNat c.toNat] := by
  rw [String.utf8EncodeChar.eq_1]
  exact if_pos (Nat.le_of_lt_succ ascii)

/-- A character with a small byte in it is ASCII. -/
theorem ascii_of_mem {b : UInt8} (small : b.toNat < 0x80) (mem : b ∈ String.utf8EncodeChar c) :
    c.toNat < 0x80 := by
  by_contra not_ascii
  have not_one : ¬c.val.toNat ≤ 127 := fun one => not_ascii (Nat.lt_succ_of_le one)
  -- whatever the number of bytes, each has its highest bit set
  have high : ∃ n, b = UInt8.ofNat n ∧ 0x80 ≤ n ∧ n < 0x100 := by
    rw [String.utf8EncodeChar.eq_1, if_neg not_one] at mem
    split at mem
    · simp only [List.mem_cons, List.not_mem_nil, or_false] at mem
      rcases mem with rfl | rfl
      all_goals exact ⟨_, rfl, by omega, by omega⟩
    split at mem
    · simp only [List.mem_cons, List.not_mem_nil, or_false] at mem
      rcases mem with rfl | rfl | rfl
      all_goals exact ⟨_, rfl, by omega, by omega⟩
    · simp only [List.mem_cons, List.not_mem_nil, or_false] at mem
      rcases mem with rfl | rfl | rfl | rfl
      all_goals exact ⟨_, rfl, by omega, by omega⟩
  obtain ⟨n, rfl, large, fits⟩ := high
  rw [UInt8.toNat_ofNat'] at small
  omega

theorem length_encode (text : String) : (encode text).length = text.utf8ByteSize := rfl

/-- There is a zero byte in a text if there is the character of that number. -/
theorem zero_mem_encode_iff : 0 ∈ encode text ↔ '\x00' ∈ text.toList := by
  rw [encode_eq, List.mem_flatMap]
  constructor
  · rintro ⟨c, mem, zero⟩
    have ascii := ascii_of_mem (b := 0) (by decide) zero
    rw [utf8EncodeChar_eq ascii, List.mem_singleton] at zero
    have number : c.toNat = 0 := by
      have same := congrArg UInt8.toNat zero
      rw [UInt8.toNat_ofNat'] at same
      have : (0 : UInt8).toNat = 0 := rfl
      omega
    have : c = '\x00' := Char.toNat_inj.1 number
    rwa [← this]
  · exact fun mem => ⟨_, mem, List.mem_singleton_self _⟩

theorem encode_push (ascii : c.toNat < 0x80) (text : String) :
    encode (text.push c) = encode text ++ [UInt8.ofNat c.toNat] := by
  rw [encode_eq, encode_eq, String.toList_push, List.flatMap_append, List.flatMap_singleton,
    utf8EncodeChar_eq ascii]

/-- A text whose last byte is an ASCII character has a text before that byte. -/
theorem exists_encode_of_concat {b : UInt8} (small : b.toNat < 0x80)
    (h : encode text = front ++ [b]) : ∃ before, encode before = front := by
  rw [encode_eq] at h
  generalize text.toList = cs at h
  cases cs using List.reverseRecOn with
  | nil => simp at h
  | append_singleton cs d =>
    rw [List.flatMap_append, List.flatMap_singleton] at h
    have last : (String.utf8EncodeChar d).getLast? = some b := by
      have ends := congrArg List.getLast? h
      rwa [List.getLast?_concat, List.getLast?_append, Option.or_of_isSome] at ends
      exact List.getLast?_isSome.2 String.utf8EncodeChar_ne_nil
    rw [utf8EncodeChar_eq (ascii_of_mem small (List.mem_of_getLast? last))] at h
    refine ⟨String.ofList cs, ?_⟩
    rw [encode_eq, String.toList_ofList]
    exact (List.append_inj' h rfl).1

/-- An ASCII character behind some bytes makes neither a text of them nor none. -/
theorem decode_concat (ascii : c.toNat < 0x80) (bytes : List UInt8) :
    (decode (bytes ++ [UInt8.ofNat c.toNat])).toOption =
      (decode bytes).toOption.map (·.push c) := by
  cases read : decode bytes with
  | ok text =>
    have more : decode (bytes ++ [UInt8.ofNat c.toNat]) = .ok (text.push c) := by
      rw [decode_eq_ok_iff, encode_push ascii, decode_eq_ok_iff.1 read]
    rw [more]
    rfl
  | error fault =>
    cases more : decode (bytes ++ [UInt8.ofNat c.toNat]) with
    | ok text =>
      have small : (UInt8.ofNat c.toNat).toNat < 0x80 := by
        rw [UInt8.toNat_ofNat']
        omega
      obtain ⟨before, written⟩ := exists_encode_of_concat small (decode_eq_ok_iff.1 more)
      cases read.symm.trans (decode_eq_ok_iff.2 written)
    | error => rfl

end BoxOffice.Text.Utf8
