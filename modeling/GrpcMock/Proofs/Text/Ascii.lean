import GrpcMock.Text.Bytes
import GrpcMock.Text.Upper
import GrpcMock.Text.WordChar
import Mathlib.Data.List.Basic

/-!
ASCII text. One byte holds one character, and what is asked of the characters of names can be tried
out on the 128 that there are.
-/

namespace GrpcMock.Text

/-- What holds of the ASCII characters by their numbers holds of each of them. -/
theorem ascii_forall {p : Char → Prop} (each : ∀ n < 128, p (Char.ofNat n)) {c : Char}
    (small : c.toNat < 128)
    : p c := by
  have holds := each c.toNat small
  rwa [Char.ofNat_toNat] at holds

-----------------------------------------------------------------------------------------
-- Characters of names
-----------------------------------------------------------------------------------------

/-- Names are made of letters, digits and underscores. -/
theorem isNameChar_iff {c : Char}
    : isNameChar c
      ↔ (65 ≤ c.toNat ∧ c.toNat ≤ 90)
        ∨ (97 ≤ c.toNat ∧ c.toNat ≤ 122)
        ∨ (48 ≤ c.toNat ∧ c.toNat ≤ 57)
        ∨ c = '_' := by
  have ranges
      : isNameChar c
        = (decide (65 ≤ c.val ∧ c.val ≤ 90) || (decide (97 ≤ c.val) && decide (c.val ≤ 122))
          || (decide (48 ≤ c.val) && decide (c.val ≤ 57)) || c == '_') :=
    rfl
  simp [ranges, UInt32.le_iff_toNat_le, or_assoc]

/-- So they are ASCII texts. -/
theorem isNameChar_small {c : Char} (h : isNameChar c) : c.toNat < 128 := by
  rcases isNameChar_iff.mp h with upper | lower | digit | rfl
  · omega
  · omega
  · omega
  · decide

/-- What a name may begin with may stand in it. -/
theorem isNameChar_of_isNameStart {c : Char} (h : isNameStart c) : isNameChar c := by
  unfold isNameStart at h
  unfold isNameChar Char.isAlphanum
  rcases Bool.or_eq_true_iff.mp h with letter | underscore
  · simp [letter]
  · simp [underscore]

/-- Characters of names stay such in upper case. -/
theorem isNameChar_toUpper {c : Char} (h : isNameChar c) : isNameChar c.toUpper :=
  ascii_forall (p := fun c => isNameChar c → isNameChar c.toUpper) (by decide)
    (isNameChar_small h) h

/-- So they do in lower case. -/
theorem isNameChar_toLower {c : Char} (h : isNameChar c) : isNameChar c.toLower :=
  ascii_forall (p := fun c => isNameChar c → isNameChar c.toLower) (by decide)
    (isNameChar_small h) h

/-- No other character of a name has an underscore for its upper case. -/
theorem underscore_not_mem_upper {c : Char} (h : isNameChar c) (other : c ≠ '_')
    : '_' ∉ upper c := by
  have small := isNameChar_small h
  rw [upper, if_pos small, List.mem_singleton]
  exact ascii_forall (p := fun c => c ≠ '_' → '_' ≠ c.toUpper) (by decide) small other

-----------------------------------------------------------------------------------------
-- Bytes
-----------------------------------------------------------------------------------------

/-- A text is known by its bytes. -/
theorem utf8Bytes_injective : Function.Injective utf8Bytes := by
  intro left right same
  have encoded : left.utf8Encode = right.utf8Encode := congrArg List.toByteArray same
  have decoded := @List.utf8Decode?_utf8Encode left
  rw [encoded, List.utf8Decode?_utf8Encode, Option.some.injEq] at decoded
  exact (List.toArray_inj decoded).symm

/-- An ASCII character is its own byte. -/
theorem utf8EncodeChar_ascii {c : Char} (small : c.toNat < 128)
    : String.utf8EncodeChar c = [UInt8.ofNat c.toNat] := by
  have low : c.val.toNat ≤ 127 := Nat.le_of_lt_succ small
  rw [String.utf8EncodeChar.eq_1, if_pos low]
  rfl

/-- The bytes of an ASCII text are the numbers of its characters. -/
theorem utf8Bytes_ascii {text : List Char} (small : ∀ c ∈ text, c.toNat < 128)
    : utf8Bytes text = text.map fun c => UInt8.ofNat c.toNat := by
  induction text with
  | nil => rfl
  | cons first rest ih =>
      rw [List.forall_mem_cons] at small
      have others : utf8Bytes rest = rest.map fun c => UInt8.ofNat c.toNat := ih small.2
      rw [utf8Bytes] at others ⊢
      rw [List.flatMap_cons, utf8EncodeChar_ascii small.1, others]
      rfl

/-- An ASCII text can be taken apart into its bytes and put together again. -/
theorem chars_utf8Bytes {text : List Char} (small : ∀ c ∈ text, c.toNat < 128)
    : (utf8Bytes text).map (fun byte => Char.ofNat byte.toNat) = text := by
  have each : ∀ c ∈ text, Char.ofNat (UInt8.ofNat c.toNat).toNat = c := fun c member =>
    ascii_forall (p := fun c => Char.ofNat (UInt8.ofNat c.toNat).toNat = c) (by decide)
      (small c member)
  rw [utf8Bytes_ascii small, List.map_map]
  exact (List.map_congr_left each).trans (List.map_id text)

/-- The characters that ASCII bytes stand for are written with these bytes. -/
theorem utf8Bytes_chars {bytes : List UInt8} (small : ∀ byte ∈ bytes, byte.toNat < 128)
    : utf8Bytes (bytes.map fun byte => Char.ofNat byte.toNat) = bytes := by
  have valid : ∀ n < 128, (Char.ofNat n).toNat = n := by decide
  have number (byte : UInt8) (member : byte ∈ bytes)
      : (Char.ofNat byte.toNat).toNat = byte.toNat :=
    valid _ (small byte member)
  have chars : ∀ c ∈ bytes.map (fun byte => Char.ofNat byte.toNat), c.toNat < 128 := by
    intro c member
    obtain ⟨byte, inside, rfl⟩ := List.mem_map.mp member
    rw [number byte inside]
    exact small byte inside
  have each : ∀ byte ∈ bytes, UInt8.ofNat (Char.ofNat byte.toNat).toNat = byte :=
    fun byte member => by rw [number byte member, UInt8.ofNat_toNat]
  rw [utf8Bytes_ascii chars, List.map_map]
  exact (List.map_congr_left each).trans (List.map_id bytes)

end GrpcMock.Text
