import GrpcMock.Proofs.Decimal.Integer
import GrpcMock.Proofs.Go.Delimited
import GrpcMock.Proofs.Go.Rendering
import GrpcMock.Proofs.Schema.Fits
import GrpcMock.Proofs.Text.Quoted
import GrpcMock.Proofs.Value.Floats
import GrpcMock.Proofs.Value.Kinds

/-!
The text of single values that need no schema. Each is a run of characters of its sort, or it is
closed by a quote or a brace of its own, so the text tells the value.
-/

namespace GrpcMock.Go

open GrpcMock.Text (quote run_append_inj)

variable {after rest : List Char}

/-- The text of a value of a field, with identifiers spelled by a function. -/
def literalText (spell : GoIdent → String) (field : FieldSchema) (value : Value)
    : Except Failure String :=
  (literal (.ofFunction spell) (some field) value).outcome

-----------------------------------------------------------------------------------------
-- Texts of one sort
-----------------------------------------------------------------------------------------

/-- A truth value is known by its literal, whatever follows it. -/
theorem bool_apart {left right : Bool}
    (same
      : (if left then "true" else "false" : String).toList ++ after
        = (if right then "true" else "false" : String).toList ++ rest)
    : left = right := by
  cases left <;> cases right <;> simp at same ⊢

/-- An integer is known by its literal, where nothing goes on with digits. -/
theorem int_apart {left right : Int} (leftEnds : Closed after) (rightEnds : Closed rest)
    (same : (toString left).toList ++ after = (toString right).toList ++ rest)
    : left = right := by
  have closers (c : Char) (h : c = ',' ∨ c = '\x7d' ∨ c = ')' ∨ c = ':')
      : ¬(c.isDigit ∨ c = '-') := by
    rcases h with rfl | rfl | rfl | rfl <;> decide
  have numeral := (run_append_inj (fun _ => Decimal.mem_toString) (fun _ => Decimal.mem_toString)
    (fun c first => closers c (leftEnds c first)) (fun c first => closers c (rightEnds c first))
    same).1
  exact Decimal.toString_inj (String.toList_inj.mp numeral)

/-- A text is known by its literal, whatever follows it. -/
theorem quote_apart {left right : String}
    (same : (quote left).toList ++ after = (quote right).toList ++ rest)
    : left = right := by
  rw [quote, quote, String.toList_ofList, String.toList_ofList] at same
  exact String.toList_inj.mp (Text.Quoted.encode_append_inj same).1

/-- A hexadecimal digit is known by its character. -/
theorem hexDigit_injOn {left right : Nat} (hl : left < 16) (hr : right < 16)
    (same : Text.Quoted.hexDigit left = Text.Quoted.hexDigit right)
    : left = right := by
  have value := Text.Quoted.hexValue?_hexDigit hl
  rw [same, Text.Quoted.hexValue?_hexDigit hr] at value
  exact (Option.some.inj value).symm

/-- A byte is four characters, the last two of which are its digits. -/
theorem byte_apart (byte : UInt8)
    : TellsApart (fun byte => (.ok (byteLiteral byte) : Except Failure String)) (fun _ => True)
        byte := by
  intro other first second after rest _ hf hs _ _ same
  cases hf
  cases hs
  simp only [byteLiteral, String.toList_ofList, List.cons_append, List.nil_append,
    List.cons.injEq, true_and] at same
  have small := byte.toNat_lt
  have otherSmall := other.toNat_lt
  have high := hexDigit_injOn (by omega) (by omega) same.1
  have low := hexDigit_injOn (Nat.mod_lt _ (by decide)) (Nat.mod_lt _ (by decide)) same.2.1
  apply UInt8.toNat_inj.mp
  omega

/-- The literal of a byte does not begin with a closing brace. -/
theorem byte_opens (byte : UInt8) : Opens (byteLiteral byte) :=
  ⟨_, _, String.toList_ofList, by decide⟩

/-- Bytes are known by their literal, whatever follows it. -/
theorem bytes_apart {left right : List UInt8}
    (same
      : (composite "[]byte" (left.map byteLiteral)).toList ++ after
        = (composite "[]byte" (right.map byteLiteral)).toList ++ rest)
    : left = right := by
  have parts (bytes : List UInt8)
      : List.Forall₂ (fun byte part => (.ok (byteLiteral byte) : Except Failure String) = .ok part)
          bytes (bytes.map byteLiteral) :=
    List.forall₂_map_right_iff.mpr (List.forall₂_same.mpr fun _ _ => rfl)
  refine composite_apart (fun byte _ => byte_apart byte) (fun _ _ => trivial) (fun _ _ => trivial)
    (fun byte part _ written => ?_) (parts left) (parts right) same
  cases written
  exact byte_opens byte

-----------------------------------------------------------------------------------------
-- Scalars
-----------------------------------------------------------------------------------------

section Scalars

variable {spell : GoIdent → String} {field : FieldSchema} {kind : FieldKind}

/-- The text of a scalar tells it from other values of its kind. -/
theorem scalar_apart {left right : Value} {first second : String} (hl : left.isOf kind)
    (hr : right.isOf kind) (floatFree : ¬left.HoldsFloat)
    (leftText : literalText spell field left = .ok first)
    (rightText : literalText spell field right = .ok second) (leftEnds : Closed after)
    (rightEnds : Closed rest) (same : first.toList ++ after = second.toList ++ rest)
    : left = right := by
  have alike : left.kindName = right.kindName :=
    (Value.isOf_kindName hl).trans (Value.isOf_kindName hr).symm
  cases Value.SameKind.of_kindName alike with
  | bool a b =>
      cases leftText
      cases rightText
      rw [bool_apart same]
  | int32 a b =>
      cases leftText
      cases rightText
      rw [Int32.toInt_inj.mp (int_apart leftEnds rightEnds same)]
  | int64 a b =>
      cases leftText
      cases rightText
      rw [Int64.toInt_inj.mp (int_apart leftEnds rightEnds same)]
  | uint32 a b =>
      cases leftText
      cases rightText
      have numbers : (a.toNat : Int) = b.toNat := int_apart leftEnds rightEnds same
      rw [UInt32.toNat_inj.mp (Int.ofNat.inj numbers)]
  | uint64 a b =>
      cases leftText
      cases rightText
      have numbers : (a.toNat : Int) = b.toNat := int_apart leftEnds rightEnds same
      rw [UInt64.toNat_inj.mp (Int.ofNat.inj numbers)]
  | float32 => exact absurd .float32 floatFree
  | float64 => exact absurd .float64 floatFree
  | string a b =>
      cases leftText
      cases rightText
      rw [quote_apart same]
  | bytes a b =>
      cases leftText
      cases rightText
      rw [bytes_apart same]
  | enum | message | list | map => cases hl

/-- A key of a map has the literal of its value. -/
theorem literalText_toValue (key : MapKey)
    : literalText spell field key.toValue = .ok (keyLiteral key) := by
  cases key <;> rfl

/-- A key is known by its value. -/
theorem toValue_injective : Function.Injective MapKey.toValue := by
  intro left right same
  cases left <;> cases right <;> cases same <;> rfl

/-- No key is a floating-point number. -/
theorem not_holdsFloat_toValue (key : MapKey) : ¬key.toValue.HoldsFloat := by
  cases key <;> nofun

/-- The text of a key tells it from other keys of its kind. -/
theorem key_apart {left right : MapKey} (hl : left.isOf kind) (hr : right.isOf kind)
    (leftEnds : Closed after) (rightEnds : Closed rest)
    (same : (keyLiteral left).toList ++ after = (keyLiteral right).toList ++ rest)
    : left = right := by
  rw [← MapKey.isOf_toValue] at hl hr
  -- neither the field nor the spelling plays a part in the text of a scalar
  have written (key : MapKey)
      : literalText (fun ident => ident.name) (.single "" 0 kind) key.toValue
        = .ok (keyLiteral key) :=
    literalText_toValue key
  exact toValue_injective (scalar_apart hl hr (not_holdsFloat_toValue left) (written left)
    (written right) leftEnds rightEnds same)

/-- The literal of an integer does not begin with a closing brace. -/
theorem opens_numeral (n : Int) : Opens (toString n) := by
  obtain ⟨c, tail, chars⟩ := List.exists_cons_of_ne_nil (Decimal.toString_ne_nil n)
  refine ⟨c, tail, chars, ?_⟩
  have sort : c.isDigit ∨ c = '-' := Decimal.mem_toString (chars ▸ List.mem_cons_self ..)
  rintro rfl
  exact absurd sort (by decide)

/-- No scalar begins like the end of a list. -/
theorem scalar_opens {value : Value} {text : String} (fits : value.isOf kind)
    (floatFree : ¬value.HoldsFloat) (written : literalText spell field value = .ok text)
    : Opens text := by
  cases value with
  | bool value =>
      cases written
      cases value
      · exact ⟨'f', _, rfl, by decide⟩
      · exact ⟨'t', _, rfl, by decide⟩
  | int32 n =>
      cases written
      exact opens_numeral n.toInt
  | int64 n =>
      cases written
      exact opens_numeral n.toInt
  | uint32 n =>
      cases written
      exact opens_numeral n.toNat
  | uint64 n =>
      cases written
      exact opens_numeral n.toNat
  | float32 => exact absurd .float32 floatFree
  | float64 => exact absurd .float64 floatFree
  | string text =>
      cases written
      exact ⟨'"', _, String.toList_ofList, by decide⟩
  | bytes bytes =>
      cases written
      have begins : (composite "[]byte" (bytes.map byteLiteral)).toList
          = '[' :: "]byte\x7b".toList ++ (joined (bytes.map byteLiteral)).toList ++ ['\x7d'] := by
        simp [composite]
      exact ⟨'[', _, begins, by decide⟩
  | enum | message | list | map => cases fits

/-- Neither does a key. -/
theorem key_opens {key : MapKey} (fits : key.isOf kind) : Opens (keyLiteral key) := by
  rw [← MapKey.isOf_toValue] at fits
  have written
      : literalText (fun ident => ident.name) (.single "" 0 kind) key.toValue
        = .ok (keyLiteral key) :=
    literalText_toValue key
  exact scalar_opens fits (not_holdsFloat_toValue key) written

end Scalars

end GrpcMock.Go
