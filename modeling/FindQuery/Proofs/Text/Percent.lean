import Mathlib.Logic.Function.Basic
import FindQuery.Text.Escapes

namespace FindQuery.Text

theorem utf8_injective : Function.Injective utf8 := by
  intro text other same
  have encoded : text.toList.utf8Encode = other.toList.utf8Encode := congrArg List.toByteArray same
  rw [String.utf8Encode_toList, String.utf8Encode_toList] at encoded
  exact String.toByteArray_inj.mp encoded

namespace Percent

def Unreserved (c : Char) : Prop := c.isAlphanum = true ∨ c ∈ ['-', '_', '.', '~']

def IsHexDigit (c : Char) : Prop := c ∈ "0123456789ABCDEF".toList

/-- What may stand between two slashes: unreserved characters, and percent signs that two digits follow. -/
inductive Segment : List Char → Prop
  | nil : Segment []
  | plain {c : Char} {rest : List Char} (unreserved : Unreserved c) (after : Segment rest) : Segment (c :: rest)
  | escape {high low : Char} {rest : List Char} (highDigit : IsHexDigit high) (lowDigit : IsHexDigit low)
    (after : Segment rest) : Segment ('%' :: high :: low :: rest)

theorem Unreserved.ne_delimiter {c : Char} (unreserved : Unreserved c) :
    c ≠ '/' ∧ c ≠ '?' ∧ c ≠ '#' ∧ c ≠ '%' := by
  refine ⟨?_, ?_, ?_, ?_⟩ <;> rintro rfl <;> revert unreserved <;> unfold Unreserved <;> decide

theorem IsHexDigit.ne_delimiter {c : Char} (digit : IsHexDigit c) : c ≠ '/' ∧ c ≠ '?' ∧ c ≠ '#' := by
  refine ⟨?_, ?_, ?_⟩ <;> rintro rfl <;> revert digit <;> unfold IsHexDigit <;> decide

theorem Segment.ne_delimiter {part : List Char} (segment : Segment part) :
    ∀ c ∈ part, c ≠ '/' ∧ c ≠ '?' ∧ c ≠ '#' := by
  induction segment with
  | nil => exact List.forall_mem_nil _
  | plain unreserved _ ih =>
    obtain ⟨slash, query, fragment, _⟩ := unreserved.ne_delimiter
    exact List.forall_mem_cons.mpr ⟨⟨slash, query, fragment⟩, ih⟩
  | escape highDigit lowDigit _ ih =>
    refine List.forall_mem_cons.mpr ⟨by decide, ?_⟩
    exact List.forall_mem_cons.mpr ⟨highDigit.ne_delimiter, List.forall_mem_cons.mpr ⟨lowDigit.ne_delimiter, ih⟩⟩

theorem isHexDigit_toUpper : ∀ n < 16, IsHexDigit (Nat.digitChar n).toUpper := by
  unfold IsHexDigit
  decide

theorem hexDigit?_toUpper : ∀ n < 16, hexDigit? (Nat.digitChar n).toUpper = some n := by decide

theorem toNat_ofNat_byte (byte : UInt8) : (Char.ofNat byte.toNat).toNat = byte.toNat := by
  have small : byte.toNat < 256 := byte.toNat_lt
  have valid : byte.toNat.isValidChar := Or.inl (by omega)
  rw [Char.ofNat, dif_pos valid]
  rfl

theorem unreserved_of_isUnreserved {byte : UInt8} (unreserved : isUnreserved byte = true) :
    byte.toNat < 0x80 ∧ Unreserved (Char.ofNat byte.toNat) := by
  simp only [isUnreserved, Bool.and_eq_true, Bool.or_eq_true, decide_eq_true_eq] at unreserved
  obtain ⟨small, marks⟩ := unreserved
  refine ⟨small, ?_⟩
  simpa [Unreserved, or_assoc] using marks

theorem segment_encodeByte (byte : UInt8) {rest : List Char} (after : Segment rest) :
    Segment (encodeByte byte ++ rest) := by
  unfold encodeByte
  split
  · next unreserved => exact .plain (unreserved_of_isUnreserved unreserved).2 after
  · have high := isHexDigit_toUpper (byte.toNat / 16 % 16) (by omega)
    have low := isHexDigit_toUpper (byte.toNat % 16) (by omega)
    exact .escape high low after

theorem segment_encode (text : String) : Segment (encode text) := by
  unfold encode
  induction utf8 text with
  | nil => exact .nil
  | cons byte rest ih =>
    rw [List.flatMap_cons]
    exact segment_encodeByte byte ih

theorem decode?_plain {c : Char} (rest : List Char) (small : c.toNat < 0x80) (ordinary : c ≠ '%') :
    decode? (c :: rest) = (decode? rest).map (UInt8.ofNat c.toNat :: ·) := by
  rw [decode?, if_pos ⟨small, ordinary⟩]
  rintro _ _ _ rfl
  exact absurd rfl ordinary

theorem decode?_encodeByte (byte : UInt8) (rest : List Char) :
    decode? (encodeByte byte ++ rest) = (decode? rest).map (byte :: ·) := by
  unfold encodeByte
  split
  · next unreserved =>
    obtain ⟨small, marks⟩ := unreserved_of_isUnreserved unreserved
    rw [← toNat_ofNat_byte] at small
    rw [List.singleton_append, decode?_plain rest small marks.ne_delimiter.2.2.2, toNat_ofNat_byte, UInt8.ofNat_toNat]
  · have high := hexDigit?_toUpper (byte.toNat / 16 % 16) (by omega)
    have low := hexDigit?_toUpper (byte.toNat % 16) (by omega)
    have bound : byte.toNat < 256 := byte.toNat_lt
    have value : byte.toNat / 16 % 16 * 16 + byte.toNat % 16 = byte.toNat := by omega
    simp only [escape, hexByte, List.cons_append, List.nil_append, decode?, high, low, Option.bind_some, value,
      UInt8.ofNat_toNat]

theorem decode?_encode (text : String) : decode? (encode text) = some (utf8 text) := by
  unfold encode
  induction utf8 text with
  | nil => rfl
  | cons byte rest ih => rw [List.flatMap_cons, decode?_encodeByte, ih, Option.map_some]

theorem encode_injective : Function.Injective encode := by
  intro text other same
  have bytes : some (utf8 text) = some (utf8 other) := by rw [← decode?_encode, ← decode?_encode, same]
  exact utf8_injective (Option.some.inj bytes)

end Percent

end FindQuery.Text
