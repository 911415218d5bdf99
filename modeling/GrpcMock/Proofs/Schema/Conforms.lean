import GrpcMock.Proofs.Sorted
import GrpcMock.Schema.Basic
import GrpcMock.Value.Basic

/-!
Values that conform to a schema. A value does not carry its type, so all that can be asked of it is
that it has the shape which the field around it calls for, with its maps in the order of their keys.
-/

namespace GrpcMock

/-- A key is of the type that the keys of a map have. -/
def MapKey.isOf : MapKey → FieldKind → Bool
  | .bool _, .bool => true
  | .int32 _, .int32 | .int32 _, .sint32 | .int32 _, .sfixed32 => true
  | .int64 _, .int64 | .int64 _, .sint64 | .int64 _, .sfixed64 => true
  | .uint32 _, .uint32 | .uint32 _, .fixed32 => true
  | .uint64 _, .uint64 | .uint64 _, .fixed64 => true
  | .string _, .string => true
  | _, _ => false

/-- A value is of the type that a scalar kind has. -/
def Value.isOf : Value → FieldKind → Bool
  | .bool _, .bool => true
  | .int32 _, .int32 | .int32 _, .sint32 | .int32 _, .sfixed32 => true
  | .int64 _, .int64 | .int64 _, .sint64 | .int64 _, .sfixed64 => true
  | .uint32 _, .uint32 | .uint32 _, .fixed32 => true
  | .uint64 _, .uint64 | .uint64 _, .fixed64 => true
  | .float32 _, .float => true
  | .float64 _, .double => true
  | .string _, .string => true
  | .bytes _, .bytes => true
  | _, _ => false

/-- The kinds of scalars are those that need no schema. -/
theorem Value.kind_of_isOf {value : Value} {kind : FieldKind} (fits : value.isOf kind)
    : kind ≠ .message ∧ kind ≠ .group ∧ kind ≠ .enum := by
  refine ⟨?_, ?_, ?_⟩ <;>
    · rintro rfl
      cases value <;> cases fits

/-- A key is of the type that it has as a value. -/
theorem MapKey.isOf_toValue {key : MapKey} {kind : FieldKind}
    : key.toValue.isOf kind = key.isOf kind := by
  cases key <;> cases kind <;> rfl

mutual
/-- The fields set in a message are some of those of a schema, in their order and each set once. -/
inductive ConformingFields : List FieldSchema → MessageValue → Prop
  | nil : ConformingFields [] []
  | skip {field : FieldSchema} {fields : List FieldSchema} {message : MessageValue}
      (rest : ConformingFields fields message)
    : ConformingFields (field :: fields) message
  | set {field : FieldSchema} {fields : List FieldSchema} {value : Value} {message : MessageValue}
      (first : ConformingField field value) (fresh : field.number ∉ message.map Prod.fst)
      (rest : ConformingFields fields message)
    : ConformingFields (field :: fields) ((field.number, value) :: message)

/-- A field holds a map, a list or a single value. -/
inductive ConformingField : FieldSchema → Value → Prop
  | map {field key value : FieldSchema} {entries : MapValue} (isMap : field.isMap)
      (entry : field.entryFields? = some (key, value)) (ascending : Sorted.Ascending entries)
      (keys : ∀ pair ∈ entries, pair.1.isOf key.kind)
      (values : ∀ pair ∈ entries, ConformingValue value pair.2)
    : ConformingField field (.map entries)
  | list {field : FieldSchema} {items : List Value} (notMap : ¬field.isMap) (isList : field.isList)
      (each : ∀ item ∈ items, ConformingValue field item)
    : ConformingField field (.list items)
  | single {field : FieldSchema} {value : Value} (notMap : ¬field.isMap) (notList : ¬field.isList)
      (conforms : ConformingValue field value)
    : ConformingField field value

/-- A single value is of the kind of its field. -/
inductive ConformingValue : FieldSchema → Value → Prop
  | message {field : FieldSchema} {schema : MessageSchema} {message : MessageValue}
      (kind : field.kind = .message ∨ field.kind = .group)
      (found : field.message = some schema) (fields : ConformingFields schema.fields message)
    : ConformingValue field (.message message)
  | enum {field : FieldSchema} {enum : EnumSchema} {ordinal : Int32} (kind : field.kind = .enum)
      (found : field.enumType = some enum) (member : (enum.member? ordinal).isSome)
    : ConformingValue field (.enum ordinal)
  | scalar {field : FieldSchema} {value : Value} (fits : value.isOf field.kind)
    : ConformingValue field value
end

/-- A message that conforms to its schema. -/
def MessageSchema.Accepts (schema : MessageSchema) (message : MessageValue) : Prop :=
  ConformingFields schema.fields message

/-- The numbers that are set are some of the numbers of the schema, in the same order. -/
theorem ConformingFields.numbers {fields : List FieldSchema} {message : MessageValue}
    : ConformingFields fields message
      → (message.map Prod.fst).Sublist (fields.map (·.number))
  | .nil => .slnil
  | .skip rest => rest.numbers.cons _
  | .set _ _ rest => rest.numbers.cons_cons _

/-- No number is set twice in a message that conforms. -/
theorem ConformingFields.nodup {fields : List FieldSchema} {message : MessageValue}
    : ConformingFields fields message → (message.map Prod.fst).Nodup
  | .nil => .nil
  | .skip rest => rest.nodup
  | .set _ fresh rest => List.nodup_cons.mpr ⟨fresh, rest.nodup⟩

/-- The values of an enum are the positions of its members. -/
theorem EnumSchema.member?_eq_some {enum : EnumSchema} {ordinal : Int32} {member : EnumMember}
    : enum.member? ordinal = some member
      ↔ 0 ≤ ordinal.toInt ∧ enum.members[ordinal.toInt.toNat]? = some member := by
  have sign : ordinal < 0 ↔ ordinal.toInt < 0 := Int32.lt_iff_toInt_lt
  unfold member?
  split
  · rename_i negative
    have below := sign.mp negative
    exact ⟨nofun, fun ⟨natural, _⟩ => absurd natural (by omega)⟩
  · rename_i natural
    exact (and_iff_right (Int.not_lt.mp (sign.not.mp natural))).symm

/-- The member at a position is one of the enum. -/
theorem EnumSchema.mem_of_member? {enum : EnumSchema} {ordinal : Int32} {member : EnumMember}
    (listed : enum.member? ordinal = some member)
    : member ∈ enum.members :=
  List.mem_of_getElem? (member?_eq_some.mp listed).2

/-- There is one at each position from zero up to the last. -/
theorem EnumSchema.member?_isSome {enum : EnumSchema} {ordinal : Int32}
    : (enum.member? ordinal).isSome
      ↔ 0 ≤ ordinal.toInt ∧ ordinal.toInt < enum.members.length := by
  rw [Option.isSome_iff_exists]
  constructor
  · rintro ⟨member, listed⟩
    obtain ⟨natural, position⟩ := member?_eq_some.mp listed
    have within := (List.getElem?_eq_some_iff.mp position).1
    omega
  · rintro ⟨natural, within⟩
    have small : ordinal.toInt.toNat < enum.members.length := by omega
    exact ⟨_, member?_eq_some.mpr ⟨natural, List.getElem?_eq_getElem small⟩⟩

end GrpcMock
