import GrpcMock.Go.Literal
import GrpcMock.Proofs.Go.Rendering
import GrpcMock.Proofs.Schema.Conforms
import GrpcMock.Proofs.Schema.WellFormed
import GrpcMock.Proofs.Sorted

/-!
Literals of values that conform to their schemas. Every part of the schema that is asked for on the
way is there, so only groups in lists and maps are refused.
-/

namespace GrpcMock.Go

variable {σ : Type} {speller : Speller σ} {allowed : Failure → Prop}

/-- The failure that some field would need a list or a map of groups. -/
def GroupRefused (failure : Failure) : Prop :=
  ∃ field, failure = .unsupportedGroup field

-----------------------------------------------------------------------------------------
-- Parts of literals
-----------------------------------------------------------------------------------------

namespace FailsOnly

/-- The literal of a float or double never fails. -/
theorem floatLiteral {format : Binary.Format} {bits : Nat}
    : FailsOnly allowed (floatLiteral speller format bits) := by
  unfold Go.floatLiteral
  split
  · exact .pure
  · exact .bind .writeFrom fun _ => .pure
  · exact .bind .writeFrom fun _ => .pure

/-- A member of the enum of a field has a literal. -/
theorem enumLiteral {field : FieldSchema} {enum : EnumSchema} {ordinal : Int32}
    (found : field.enumType = some enum) (member : (enum.member? ordinal).isSome)
    : FailsOnly allowed (enumLiteral speller field ordinal) := by
  obtain ⟨_, listed⟩ := Option.isSome_iff_exists.mp member
  refine .required found ?_
  rw [listed]
  exact .write

/-- A well-formed field has a type. -/
theorem typeName {field : FieldSchema} (h : FieldSchema.WellFormed field)
    : FailsOnly allowed (typeName speller field) := by
  have message (kind : field.kind = .message ∨ field.kind = .group)
      : ∃ nested, field.message = some nested :=
    Option.isSome_iff_exists.mp (h.message.mp kind)
  unfold Go.typeName
  split
  · rename_i kind
    obtain ⟨_, found⟩ := Option.isSome_iff_exists.mp (h.enumType.mp kind)
    exact .required found .write
  · rename_i kind
    obtain ⟨_, found⟩ := message (.inl kind)
    exact .required found (.bind .write fun _ => .pure)
  · rename_i kind
    obtain ⟨_, found⟩ := message (.inr kind)
    exact .required found (.bind .write fun _ => .pure)
  · exact .pure

/-- Making a pointer never fails. -/
theorem pointed {value : Value} {text : String}
    : FailsOnly allowed (pointed speller value text) := by
  unfold Go.pointed
  split
  · exact .pure
  · split
    · exact .pure
    · exact .bind .writeFrom fun _ => .pure

/-- Neither does setting a field to what is written. -/
theorem assigned {field : FieldSchema} {value : Value} {text : String}
    : FailsOnly allowed (assigned speller field value text) := by
  unfold Go.assigned
  dsimp only
  split
  · exact .bind .pointed fun _ => .pure
  · exact .pure

/-- Renderings one after the other, by induction on the list of them. -/
theorem inOrder {renderings : List (Rendering σ String)}
    (each : ∀ rendering ∈ renderings, FailsOnly allowed rendering)
    : FailsOnly allowed (inOrder renderings) := by
  induction renderings with
  | nil => exact .pure
  | cons first rest ih =>
      have others : ∀ rendering ∈ rest, FailsOnly allowed rendering :=
        fun rendering later => each rendering (List.mem_cons_of_mem _ later)
      exact .bind (each first (List.mem_cons_self ..)) fun _ => .bind (ih others) fun _ => .pure

/-- The type of a list fails only for groups. -/
theorem listType {field : FieldSchema} (h : FieldSchema.WellFormed field)
    : FailsOnly GroupRefused (listType speller field) := by
  unfold Go.listType
  split
  · exact .throw_bind ⟨_, rfl⟩
  · exact .bind (.typeName h) fun _ => .pure

/-- The type of a map does not fail for well-formed fields. -/
theorem mapType {key value : FieldSchema} (hk : FieldSchema.WellFormed key)
    (hv : FieldSchema.WellFormed value)
    : FailsOnly allowed (mapType speller key value) :=
  .bind (.typeName hk) fun _ => .bind (.typeName hv) fun _ => .pure

/-- The fields for the entries of a map are given, unless the values are groups. -/
theorem mapFields {α : Type} {field key value : FieldSchema}
    {next : FieldSchema × FieldSchema → Rendering σ α}
    (entry : field.entryFields? = some (key, value))
    (hn : FailsOnly GroupRefused (next (key, value)))
    : FailsOnly GroupRefused (mapFields field >>= next) := by
  unfold Go.mapFields
  rw [bind_assoc]
  refine .required entry ?_
  dsimp only
  split
  · exact .throw_bind ⟨_, rfl⟩
  · exact hn

end FailsOnly

-----------------------------------------------------------------------------------------
-- Literals
-----------------------------------------------------------------------------------------

/-- A scalar needs no schema. -/
theorem literal_scalar {field : Option FieldSchema} {value : Value} {kind : FieldKind}
    (fits : value.isOf kind)
    : FailsOnly allowed (literal speller field value) := by
  unfold literal
  cases value with
  | float32 | float64 => exact .floatLiteral
  | enum | message | list | map => cases fits
  | _ => exact .pure

/-- The elements of a list fail only as one of them does. -/
theorem elements_failsOnly {field : FieldSchema} {items : List Value}
    (each : ∀ item ∈ items, FailsOnly allowed (literal speller (some field) item))
    : FailsOnly allowed (elements speller field items) := by
  induction items with
  | nil => exact .pure
  | cons first rest ih =>
      have others : ∀ item ∈ rest, FailsOnly allowed (literal speller (some field) item) :=
        fun item later => each item (List.mem_cons_of_mem _ later)
      rw [elements]
      exact .bind (each first (List.mem_cons_self ..)) fun _ => .bind (ih others) fun _ => .pure

/-- So do the entries of a map. -/
theorem entryLiterals_failsOnly {field : FieldSchema} {entries : List (MapKey × Value)}
    (each : ∀ pair ∈ entries, FailsOnly allowed (literal speller (some field) pair.2))
    : ∀ entry ∈ entryLiterals speller field entries, FailsOnly allowed entry.2 := by
  induction entries with
  | nil => simp [entryLiterals]
  | cons first rest ih =>
      intro entry member
      rw [entryLiterals] at member
      rcases List.mem_cons.mp member with rfl | later
      · exact .bind (each first (List.mem_cons_self ..)) fun _ => .pure
      · exact ih (fun pair later => each pair (List.mem_cons_of_mem _ later)) entry later

variable {package : Package}

mutual
/-- The literal of a value that conforms to a field fails only for a group that is refused, by
induction on why it conforms. -/
theorem literal_failsOnly (h : package.WellFormed) {field : FieldSchema} {value : Value}
    : ConformingField field value
      → package.HasField field
      → FailsOnly GroupRefused (literal speller (some field) value)
  | .map _ entry _ _ values, inside => by
      obtain ⟨keyInside, valueInside⟩ := inside.entry h entry
      rw [literal]
      refine .required rfl (.mapFields entry ?_)
      refine .bind (.mapType (keyInside.wellFormed h) (valueInside.wellFormed h)) fun _ => ?_
      refine .bind (.inOrder fun rendering listed => ?_) fun _ => .pure
      obtain ⟨entry, sorted, rfl⟩ := List.mem_map.mp listed
      refine entryLiterals_failsOnly (fun pair member => ?_) entry (Sorted.mem_ofList sorted)
      exact single_failsOnly h (values pair member) valueInside
  | .list _ _ each, inside => by
      rw [literal]
      refine .required rfl (.bind (.listType (inside.wellFormed h)) fun _ => ?_)
      refine .bind (elements_failsOnly fun item member => ?_) fun _ => .pure
      exact single_failsOnly h (each item member) inside
  | .single _ _ conforms, inside => single_failsOnly h conforms inside

/-- A single value that conforms fails only for groups. -/
theorem single_failsOnly (h : package.WellFormed) {field : FieldSchema} {value : Value}
    : ConformingValue field value
      → package.HasField field
      → FailsOnly GroupRefused (literal speller (some field) value)
  | .message _ found fields, inside => by
      have parts := arguments_failsOnly h fields (List.Subset.refl _) (inside.message_mem h found)
      rw [literal]
      refine .required rfl (.required found ?_)
      exact .bind parts fun _ => .bind .write fun _ => .pure
  | .enum _ found member, _ => by
      rw [literal]
      exact .required rfl (.enumLiteral found member)
  | .scalar fits, _ => literal_scalar fits

/-- So do the fields of a message that conform, one by one. -/
theorem arguments_failsOnly (h : package.WellFormed) {schema : MessageSchema}
    {fields : List FieldSchema} {message : MessageValue}
    : ConformingFields fields message
      → fields ⊆ schema.fields
      → schema ∈ package.messages
      → FailsOnly GroupRefused (arguments speller schema message)
  | .nil, _, _ => .pure
  | .skip rest, included, member =>
      arguments_failsOnly h rest (List.subset_of_cons_subset included) member
  | .set first _ rest, included, member => by
      have declared := included (List.mem_cons_self ..)
      have value := literal_failsOnly h first ⟨schema, member, declared⟩
      have others := arguments_failsOnly h rest (List.subset_of_cons_subset included) member
      rw [arguments, (h.messages schema member).fieldNumbered? declared]
      exact .bind value fun _ => .bind .assigned fun _ => .bind others fun _ => .pure
end

/-- The literal of a message that conforms to its schema. -/
theorem messageLiteral_failsOnly (h : package.WellFormed) {schema : MessageSchema}
    {message : MessageValue} (member : schema ∈ package.messages)
    (conforms : schema.Accepts message)
    : FailsOnly GroupRefused (messageLiteral speller schema message) :=
  .bind (arguments_failsOnly h conforms (List.Subset.refl _) member) fun _ =>
    .bind .write fun _ => .pure

end GrpcMock.Go
