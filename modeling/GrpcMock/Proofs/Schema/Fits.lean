import GrpcMock.Proofs.Schema.Conforms

/-!
Values that fit a schema, whatever the order of their fields. Whether a value conforms depends on
the order in which fields are set as well; all else is the same for both.
-/

namespace GrpcMock

mutual
/-- A field holds a map, a list or a single value. -/
inductive FittingField : FieldSchema → Value → Prop
  | map {field key value : FieldSchema} {entries : MapValue} (isMap : field.isMap)
      (entry : field.entryFields? = some (key, value)) (ascending : Sorted.Ascending entries)
      (keys : ∀ pair ∈ entries, pair.1.isOf key.kind)
      (values : ∀ pair ∈ entries, FittingValue value pair.2)
    : FittingField field (.map entries)
  | list {field : FieldSchema} {items : List Value} (notMap : ¬field.isMap) (isList : field.isList)
      (each : ∀ item ∈ items, FittingValue field item)
    : FittingField field (.list items)
  | single {field : FieldSchema} {value : Value} (notMap : ¬field.isMap) (notList : ¬field.isList)
      (fits : FittingValue field value)
    : FittingField field value

/-- A single value is of the kind of its field. -/
inductive FittingValue : FieldSchema → Value → Prop
  | message {field : FieldSchema} {schema : MessageSchema} {message : MessageValue}
      (kind : field.kind = .message ∨ field.kind = .group)
      (found : field.message = some schema) (fields : FittingMessage schema message)
    : FittingValue field (.message message)
  | enum {field : FieldSchema} {enum : EnumSchema} {ordinal : Int32} (kind : field.kind = .enum)
      (found : field.enumType = some enum) (member : (enum.member? ordinal).isSome)
    : FittingValue field (.enum ordinal)
  | scalar {field : FieldSchema} {value : Value} (fits : value.isOf field.kind)
    : FittingValue field value

/-- Each field that is set in a message is one of those of its schema. -/
inductive FittingMessage : MessageSchema → MessageValue → Prop
  | nil {schema : MessageSchema} : FittingMessage schema []
  | set {schema : MessageSchema} {field : FieldSchema} {value : Value} {message : MessageValue}
      (declared : field ∈ schema.fields) (first : FittingField field value)
      (rest : FittingMessage schema message)
    : FittingMessage schema ((field.number, value) :: message)
end

mutual
/-- What conforms fits, by induction on why it conforms. -/
theorem ConformingField.fits {field : FieldSchema} {value : Value}
    : ConformingField field value → FittingField field value
  | .map isMap entry ascending keys values =>
      .map isMap entry ascending keys fun pair member => (values pair member).fits
  | .list notMap isList each => .list notMap isList fun item member => (each item member).fits
  | .single notMap notList conforms => .single notMap notList conforms.fits

/-- A value that conforms to a field fits it. -/
theorem ConformingValue.fits {field : FieldSchema} {value : Value}
    : ConformingValue field value → FittingValue field value
  | .message kind found fields => .message kind found (fields.fits (List.Subset.refl _))
  | .enum kind found member => .enum kind found member
  | .scalar fits => .scalar fits

/-- A message whose fields conform fits its schema. -/
theorem ConformingFields.fits {schema : MessageSchema} {fields : List FieldSchema}
    {message : MessageValue}
    : ConformingFields fields message → fields ⊆ schema.fields → FittingMessage schema message
  | .nil, _ => .nil
  | .skip rest, included => rest.fits (List.subset_of_cons_subset included)
  | .set first _ rest, included =>
      .set (included (List.mem_cons_self ..)) first.fits
        (rest.fits (List.subset_of_cons_subset included))
end

/-- A field that holds a scalar holds no other values. -/
theorem FittingValue.isOf {field : FieldSchema} {value other : Value} (h : FittingValue field value)
    (scalar : other.isOf field.kind)
    : value.isOf field.kind := by
  obtain ⟨notMessage, notGroup, notEnum⟩ := Value.kind_of_isOf scalar
  cases h with
  | message kind => exact absurd kind (not_or.mpr ⟨notMessage, notGroup⟩)
  | enum kind => exact absurd kind notEnum
  | scalar fits => exact fits

/-- Each field that is set in such a message is one of the schema. -/
theorem FittingMessage.field_of_mem {schema : MessageSchema} {message : MessageValue}
    : FittingMessage schema message
      → ∀ pair ∈ message,
          ∃ field ∈ schema.fields, field.number = pair.1 ∧ FittingField field pair.2
  | .nil, _, member => by cases member
  | .set declared first rest, pair, member => by
      rcases List.mem_cons.mp member with rfl | later
      · exact ⟨_, declared, rfl, first⟩
      · exact rest.field_of_mem pair later

-----------------------------------------------------------------------------------------
-- Types of values
-----------------------------------------------------------------------------------------

/-- The type of the single values of a kind. -/
def FieldKind.valueName : FieldKind → String
  | .bool => "bool"
  | .int32 | .sint32 | .sfixed32 => "int32"
  | .int64 | .sint64 | .sfixed64 => "int64"
  | .uint32 | .fixed32 => "uint32"
  | .uint64 | .fixed64 => "uint64"
  | .float => "float32"
  | .double => "float64"
  | .string => "string"
  | .bytes => "bytes"
  | .enum => "enum"
  | .message | .group => "message"

/-- A value of a kind has the type that goes with it. -/
theorem Value.isOf_kindName {value : Value} {kind : FieldKind} (fits : value.isOf kind)
    : value.kindName = kind.valueName := by
  cases value <;> cases kind <;> first | rfl | cases fits

/-- So has a value that fits a field. -/
theorem FittingValue.kindName {field : FieldSchema} {value : Value} (h : FittingValue field value)
    : value.kindName = field.kind.valueName := by
  cases h with
  | message kind => rcases kind with kind | kind <;> rw [kind] <;> rfl
  | enum kind => rw [kind]; rfl
  | scalar fits => exact Value.isOf_kindName fits

/-- The values that fit a field are all of one type. -/
theorem FittingField.kindName_eq {field : FieldSchema} {left right : Value}
    (hl : FittingField field left) (hr : FittingField field right)
    : left.kindName = right.kindName := by
  cases hl with
  | map isMap =>
      cases hr with
      | map => rfl
      | list notMap => exact absurd isMap notMap
      | single notMap => exact absurd isMap notMap
  | list notMap isList =>
      cases hr with
      | map isMap => exact absurd isMap notMap
      | list => rfl
      | single _ notList => exact absurd isList notList
  | single notMap notList fits =>
      cases hr with
      | map isMap => exact absurd isMap notMap
      | list _ isList => exact absurd isList notList
      | single _ _ fitsToo => exact fits.kindName.trans fitsToo.kindName.symm

end GrpcMock
