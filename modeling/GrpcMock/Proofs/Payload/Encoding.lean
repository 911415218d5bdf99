import GrpcMock.Payload.Message
import GrpcMock.Proofs.Decimal.Integer
import GrpcMock.Proofs.Payload.Bytes
import GrpcMock.Proofs.Payload.Single
import GrpcMock.Proofs.Text.Ascii
import GrpcMock.Proofs.Value.Floats
import Mathlib.Data.List.Nodup
import Mathlib.Data.List.TakeWhile

/-!
The payload that stands for a value. Integers of 64 bits are written as decimal text, since a JSON
number may not keep them; bytes are written in Base64, members of an enum by name, and messages and
maps as objects. What is written for a single value is read back as that value.
-/

namespace GrpcMock.Payload

open GrpcMock.Binary (Format)
open GrpcMock.Decimal (Range)

-----------------------------------------------------------------------------------------
-- Writing
-----------------------------------------------------------------------------------------

/-- The name under which an object has the entry of a map with a key. -/
def keyText : MapKey → String
  | .bool value => if value then "true" else "false"
  | .int32 value => toString value.toInt
  | .int64 value => toString value.toInt
  | .uint32 value => toString (value.toNat : Int)
  | .uint64 value => toString (value.toNat : Int)
  | .string value => value

def base64Text (bytes : List UInt8) : String :=
  String.ofList ((Base64.encode .standard bytes).map fun byte => Char.ofNat byte.toNat)

/-- The name of the member at a position, or null if there is none. -/
def encodeMember (enum : Option EnumSchema) (ordinal : Int32) : Json :=
  match enum.bind (·.member? ordinal) with
  | some member => .string member.name
  | none => .null

mutual
/-- The payload for a value of a field. -/
def encode (field : FieldSchema) : Value → Json
  | .bool value => .bool value
  | .int32 value => .number (.integer value.toInt)
  | .int64 value => .string (toString value.toInt)
  | .uint32 value => .number (.integer value.toNat)
  | .uint64 value => .string (toString (value.toNat : Int))
  | .float32 bits => .number (.double (Format.single.convert .double bits.toNat))
  | .float64 bits => .number (.double bits.toNat)
  | .string value => .string value
  | .bytes value => .string (base64Text value)
  | .enum ordinal => encodeMember field.enumType ordinal
  | .message fields =>
      match field.message with
      | some schema => .object (Sorted.ofList (encodeFields schema fields))
      | none => .null
  | .list items => .array (encodeItems field items)
  | .map entries =>
      match field.entryFields? with
      | some (_, value) => .object (Sorted.ofList (encodeEntries value entries))
      | none => .null

/-- The members for the fields that are set in a message, each under its JSON name. -/
def encodeFields (schema : MessageSchema) : List (UInt32 × Value) → List (String × Json)
  | [] => []
  | (number, value) :: rest =>
      match schema.fieldNumbered? number with
      | some field => (field.jsonName, encode field value) :: encodeFields schema rest
      | none => encodeFields schema rest

def encodeItems (field : FieldSchema) : List Value → List Json
  | [] => []
  | item :: rest => encode field item :: encodeItems field rest

/-- The members for the entries of a map, each under the text of its key. -/
def encodeEntries (field : FieldSchema) : List (MapKey × Value) → List (String × Json)
  | [] => []
  | (key, value) :: rest => (keyText key, encode field value) :: encodeEntries field rest
end

/-- The payload for a message: an object with a member for each field that is set. -/
def encodeMessage (schema : MessageSchema) (message : MessageValue) : Json :=
  .object (Sorted.ofList (encodeFields schema message))

/-- The items of a list are encoded each for itself. -/
theorem encodeItems_eq (field : FieldSchema) (items : List Value)
    : encodeItems field items = items.map (encode field) := by
  induction items with
  | nil => rfl
  | cons first rest ih => rw [encodeItems, ih, List.map_cons]

/-- So are the entries of a map. -/
theorem encodeEntries_eq (field : FieldSchema) (entries : MapValue)
    : encodeEntries field entries
      = entries.map fun (key, value) => (keyText key, encode field value) := by
  induction entries with
  | nil => rfl
  | cons first rest ih => rw [encodeEntries, ih, List.map_cons]

/-- So are the fields of a message, apart from numbers that it does not have. -/
theorem encodeFields_eq (schema : MessageSchema) (message : MessageValue)
    : encodeFields schema message
      = message.filterMap fun (number, value) =>
          (schema.fieldNumbered? number).map fun field => (field.jsonName, encode field value) := by
  induction message with
  | nil => rfl
  | cons first rest ih =>
      obtain ⟨number, value⟩ := first
      rw [encodeFields, List.filterMap_cons, ih]
      cases found : schema.fieldNumbered? number <;> simp only [found, Option.map]

-----------------------------------------------------------------------------------------
-- Numbers
-----------------------------------------------------------------------------------------

/-- Integers of 32 bits are in their range. -/
theorem int32_holds (n : Int32) : Range.int32.holds n.toInt :=
  Range.holds_iff.mpr ⟨n.le_toInt, n.toInt_le⟩

/-- So are integers of 64 bits. -/
theorem int64_holds (n : Int64) : Range.int64.holds n.toInt :=
  Range.holds_iff.mpr ⟨n.le_toInt, n.toInt_le⟩

/-- So are natural numbers of 32 bits. -/
theorem uint32_holds (n : UInt32) : Range.uint32.holds n.toNat :=
  Range.holds_iff.mpr
    ⟨Int.natCast_nonneg _, Int.le_of_lt_add_one (Int.ofNat_lt.mpr n.toNat_lt)⟩

/-- So are natural numbers of 64 bits. -/
theorem uint64_holds (n : UInt64) : Range.uint64.holds n.toNat :=
  Range.holds_iff.mpr
    ⟨Int.natCast_nonneg _, Int.le_of_lt_add_one (Int.ofNat_lt.mpr n.toNat_lt)⟩

/-- Every integer that a kind can hold is within what is read from text. -/
theorem int128_holds {kind : FieldKind} {n : Int} (h : (rangeOf kind).holds n)
    : Range.int128.holds n := by
  have wider
      : Range.int128.lowest ≤ (rangeOf kind).lowest
        ∧ (rangeOf kind).highest ≤ Range.int128.highest := by
    cases kind <;> decide
  rw [Range.holds_iff] at *
  omega

/-- A text without white space is not trimmed. -/
theorem trimBlanks_eq_self {text : List Char} (solid : ∀ c ∈ text, ¬Text.isBlank c)
    : Text.trimBlanks text = text := by
  have kept {text : List Char} (solid : ∀ c ∈ text, ¬Text.isBlank c)
      : text.dropWhile Text.isBlank = text :=
    List.dropWhile_eq_self_iff.mpr fun some => solid _ (List.getElem_mem some)
  have reversed : ∀ c ∈ text.reverse, ¬Text.isBlank c := fun c member =>
    solid c (List.mem_reverse.mp member)
  rw [Text.trimBlanks, kept solid, kept reversed, List.reverse_reverse]

/-- Decimal text has no white space in it. -/
theorem not_isBlank_of_mem_toString {n : Int} {c : Char} (member : c ∈ (toString n).toList)
    : ¬Text.isBlank c := by
  rcases Decimal.mem_toString member with digit | rfl
  · have small : c.toNat < 128 :=
      Nat.lt_of_le_of_lt (Char.isDigit_iff_toNat.mp digit).2 (by decide)
    exact Text.ascii_forall (p := fun c => c.isDigit → ¬Text.isBlank c) (by decide) small digit
  · decide

/-- What stands for an integer in the range of a kind is read as it. -/
theorem readInteger_of_integer? {kind : FieldKind} {payload : Json} {n : Int}
    (stands : integer? payload = some n) (h : (rangeOf kind).holds n)
    : readInteger kind payload = .ok n := by
  rw [readInteger, stands]
  exact if_pos h

/-- An integer that a kind can hold is read from its decimal text. -/
theorem readInteger_text {kind : FieldKind} {n : Int} (h : (rangeOf kind).holds n)
    : readInteger kind (.string (toString n)) = .ok n := by
  refine readInteger_of_integer? ?_ h
  rw [integer?, trimBlanks_eq_self fun _ => not_isBlank_of_mem_toString]
  exact Decimal.Range.read?_toString (int128_holds h)

/-- It is read from a number as well. -/
theorem readInteger_number {kind : FieldKind} {n : Int} (h : (rangeOf kind).holds n)
    : readInteger kind (.number (.integer n)) = .ok n :=
  readInteger_of_integer? rfl h

-----------------------------------------------------------------------------------------
-- Single values
-----------------------------------------------------------------------------------------

section Kinds

variable {kind : FieldKind}

/-- Signed integers of 32 bits are values of three kinds. -/
theorem kind_of_int32 {n : Int32} (fits : (Value.int32 n).isOf kind)
    : kind = .int32 ∨ kind = .sint32 ∨ kind = .sfixed32 := by
  cases kind <;> simp_all [Value.isOf]

/-- So are those of 64 bits. -/
theorem kind_of_int64 {n : Int64} (fits : (Value.int64 n).isOf kind)
    : kind = .int64 ∨ kind = .sint64 ∨ kind = .sfixed64 := by
  cases kind <;> simp_all [Value.isOf]

/-- Natural numbers of 32 bits are values of two kinds. -/
theorem kind_of_uint32 {n : UInt32} (fits : (Value.uint32 n).isOf kind)
    : kind = .uint32 ∨ kind = .fixed32 := by
  cases kind <;> simp_all [Value.isOf]

/-- So are those of 64 bits. -/
theorem kind_of_uint64 {n : UInt64} (fits : (Value.uint64 n).isOf kind)
    : kind = .uint64 ∨ kind = .fixed64 := by
  cases kind <;> simp_all [Value.isOf]

end Kinds

/-- Bytes are read back from their text in Base64. -/
theorem readBytes_base64Text (bytes : List UInt8)
    : readBytes (.string (base64Text bytes)) = .ok bytes :=
  readBytes_text_eq_ok.mpr (.inl rfl)

/-- What a value of a scalar kind is written as stands for the value. -/
theorem readScalar_encode {kind : FieldKind} {field : FieldSchema} {value : Value}
    (fits : value.isOf kind) (floatFree : ¬value.HoldsFloat)
    : readScalar kind (encode field value) = .ok value := by
  cases value with
  | bool value =>
      have kindIs : kind = .bool := by cases kind <;> simp_all [Value.isOf]
      subst kindIs
      rfl
  | int32 n =>
      have read (range : rangeOf kind = .int32)
          : readInteger kind (.number (.integer n.toInt)) = .ok n.toInt :=
        readInteger_number (range ▸ int32_holds n)
      rcases kind_of_int32 fits with rfl | rfl | rfl <;>
        simp only [readScalar, encode, read rfl, Except.map, Int32.ofInt_toInt]
  | int64 n =>
      have read (range : rangeOf kind = .int64)
          : readInteger kind (.string (toString n.toInt)) = .ok n.toInt :=
        readInteger_text (range ▸ int64_holds n)
      rcases kind_of_int64 fits with rfl | rfl | rfl <;>
        simp only [readScalar, encode, read rfl, Except.map, Int64.ofInt_toInt]
  | uint32 n =>
      have read (range : rangeOf kind = .uint32)
          : readInteger kind (.number (.integer n.toNat)) = .ok n.toNat :=
        readInteger_number (range ▸ uint32_holds n)
      rcases kind_of_uint32 fits with rfl | rfl <;>
        simp only [readScalar, encode, read rfl, Except.map, Int.toNat_natCast,
          UInt32.ofNat_toNat]
  | uint64 n =>
      have read (range : rangeOf kind = .uint64)
          : readInteger kind (.string (toString (n.toNat : Int))) = .ok n.toNat :=
        readInteger_text (range ▸ uint64_holds n)
      rcases kind_of_uint64 fits with rfl | rfl <;>
        simp only [readScalar, encode, read rfl, Except.map, Int.toNat_natCast,
          UInt64.ofNat_toNat]
  | float32 => exact absurd .float32 floatFree
  | float64 => exact absurd .float64 floatFree
  | string text =>
      have kindIs : kind = .string := by cases kind <;> simp_all [Value.isOf]
      subst kindIs
      rfl
  | bytes bytes =>
      have kindIs : kind = .bytes := by cases kind <;> simp_all [Value.isOf]
      subst kindIs
      simp only [readScalar, encode, readBytes_base64Text, Except.map]
  | enum | message | list | map => cases fits

/-- A key is read from the text that it is written as. -/
theorem readKey_keyText {kind : FieldKind} {key : MapKey} (fits : key.isOf kind)
    : readKey kind (keyText key) = .ok key := by
  have found : mapKey? kind (keyText key) = some key := by
    rw [← MapKey.isOf_toValue] at fits
    cases key with
    | bool value =>
        have kindIs : kind = .bool := by cases kind <;> simp_all [Value.isOf, MapKey.toValue]
        subst kindIs
        cases value <;> rfl
    | int32 n =>
        rcases kind_of_int32 fits with rfl | rfl | rfl <;>
          simp only [mapKey?, keyText, Decimal.Range.read?_toString (int32_holds n),
            Option.map_some, Int32.ofInt_toInt]
    | int64 n =>
        rcases kind_of_int64 fits with rfl | rfl | rfl <;>
          simp only [mapKey?, keyText, Decimal.Range.read?_toString (int64_holds n),
            Option.map_some, Int64.ofInt_toInt]
    | uint32 n =>
        rcases kind_of_uint32 fits with rfl | rfl <;>
          simp only [mapKey?, keyText, Decimal.Range.read?_toString (uint32_holds n),
            Option.map_some, Int.toNat_natCast, UInt32.ofNat_toNat]
    | uint64 n =>
        rcases kind_of_uint64 fits with rfl | rfl <;>
          simp only [mapKey?, keyText, Decimal.Range.read?_toString (uint64_holds n),
            Option.map_some, Int.toNat_natCast, UInt64.ofNat_toNat]
    | string text =>
        have kindIs : kind = .string := by cases kind <;> simp_all [Value.isOf, MapKey.toValue]
        subst kindIs
        rfl
  rw [readKey, found]

/-- A member is found by its name, which no member before it has. -/
theorem ordinalOfName?_getElem {enum : EnumSchema}
    (distinct : (enum.members.map (·.name)).Nodup) {position : Nat}
    (listed : position < enum.members.length)
    : enum.ordinalOfName? enum.members[position].name = some position := by
  refine List.findIdx?_eq_some_iff_getElem.mpr ⟨listed, beq_self_eq_true _, ?_⟩
  intro earlier before same
  have names : (enum.members.map (·.name))[earlier]? = (enum.members.map (·.name))[position]? := by
    simpa [before.trans listed, listed] using same
  have within : earlier < (enum.members.map (·.name)).length := by simpa using before.trans listed
  have positions : earlier = position := (List.getElem?_inj within distinct).mp names
  omega

/-- The position of a member of an enum is read from the name of the member. -/
theorem readMember_encodeMember {enum : EnumSchema} {ordinal : Int32}
    (distinct : (enum.members.map (·.name)).Nodup) (h : (enum.member? ordinal).isSome)
    : readMember enum (encodeMember (some enum) ordinal) = .ok ordinal := by
  obtain ⟨member, found⟩ := Option.isSome_iff_exists.mp h
  obtain ⟨natural, position⟩ := EnumSchema.member?_eq_some.mp found
  obtain ⟨listed, rfl⟩ := List.getElem?_eq_some_iff.mp position
  have small : ordinal.toInt.toNat < Nat.pow 2 31 := by
    have bound : ordinal.toInt < (Nat.pow 2 31 : Nat) := ordinal.toInt_lt
    omega
  have same : Int32.ofNat ordinal.toInt.toNat = ordinal := by
    rw [← Int32.toInt_inj, Int32.toInt_ofNat_of_lt small]
    omega
  simp only [readMember, encodeMember, Option.bind_some, found, ordinal?,
    ordinalOfName?_getElem distinct listed, Option.filter_some, small, decide_true, if_true, same]

end GrpcMock.Payload
