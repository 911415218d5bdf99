import GrpcMock.Proofs.Proto.Describes

/-!
Which fields can be unset. How a field is written, what its type resolves to and the dialect of its
file decide on it together; the fields of a map entry are always set.
-/

namespace GrpcMock.Proto.File

variable {file : File}

/-- The type of a field is a scalar or an enum. -/
def HasPlainType (file : File) (message : Definition) (field : Field) : Prop :=
  (∃ kind, file.resolve message.name (field.type.getD "") = some (.scalar kind))
  ∨ ∃ enum,
      file.resolve message.name (field.type.getD "") = some (.definition enum) ∧ enum.kind = .enum

/-- A field is written so that it can be unset: not as a list, a map or a group, with a scalar or an
enum for its type, and marked unless the file is in the older dialect. -/
structure WrittenUnsettable (file : File) (message : Definition) (field : Field) : Prop where
  single : field.label ∉ [.repeated, .repeatedGroup, .map, .group]
  plain : file.HasPlainType message field
  marked : field.label = .optional ∨ field.label = .singular ∧ file.dialect = .proto2

/-- A schema has presence just if its field is written so, and not at all in a map entry. -/
def PresenceAsWritten (file : File) (message : Definition) (field : Field) (schema : FieldSchema)
    : Prop :=
  if message.isMapEntry then schema.hasPresence = false
  else schema.hasPresence ↔ file.WrittenUnsettable message field

/-- A label lets a field be unset if it says so or the dialect does. -/
theorem canBeUnset_iff {label : Label}
    : file.canBeUnset label ↔ label = .optional ∨ label = .singular ∧ file.dialect = .proto2 := by
  cases label <;> simp [canBeUnset]

/-- A field has presence if its label allows it, it holds no message and it is not part of a map
entry. -/
theorem labelled_hasPresence (file : File) (inMapEntry : Bool) (label : Label)
    {schema : FieldSchema} (bare : schema.hasPresence = false)
    : (file.labelled inMapEntry label schema).hasPresence
      ↔ inMapEntry = false
        ∧ (schema.kind ≠ .message ∧ schema.kind ≠ .group)
        ∧ file.canBeUnset label := by
  unfold labelled
  split
  · rename_i isRepeated
    have never : ¬file.canBeUnset label := by
      cases label <;> simp_all [canBeUnset, Label.isRepeated]
    simp [bare, never]
  · simp [and_assoc]

/-- No type gives a field presence by itself. -/
theorem DescribesType.hasPresence {message : Definition} {field : Field} {schema : FieldSchema}
    (h : file.DescribesType message field schema)
    : schema.hasPresence = false := by
  cases h <;> rfl

/-- The kind of a field is that of a message or a group just if its type is no scalar and no enum.
-/
theorem DescribesType.plain_iff {message : Definition} {field : Field} {schema : FieldSchema}
    (h : file.DescribesType message field schema)
    : schema.kind ≠ .message ∧ schema.kind ≠ .group ↔ file.HasPlainType message field := by
  cases h with
  | @scalar _ _ kind resolved =>
      have scalar : kind.isScalar := isScalar_of_ofKeyword? (resolve_scalar resolved)
      have unlike : kind ≠ .message ∧ kind ≠ .group := by
        constructor <;> rintro rfl <;> cases scalar
      exact iff_of_true unlike (.inl ⟨kind, resolved⟩)
  | enum resolved kind =>
      exact iff_of_true ⟨nofun, nofun⟩ (.inr ⟨_, resolved, kind⟩)
  | @message _ target _ _ resolved kind =>
      have unlike : ¬file.HasPlainType message field := by
        rintro (⟨_, again⟩ | ⟨enum, again, isEnum⟩)
        · cases resolved.symm.trans again
        · cases resolved.symm.trans again
          cases kind.symm.trans isEnum
      refine iff_of_false (fun plain => ?_) unlike
      cases group : field.label.isGroup with
      | true => exact plain.2 (if_pos group)
      | false => exact plain.1 (if_neg (Bool.eq_false_iff.mp group))

/-- A field is written as one that can be unset exactly if its type is plain and its label allows
it. -/
theorem writtenUnsettable_iff {message : Definition} {field : Field}
    : file.WrittenUnsettable message field
      ↔ file.HasPlainType message field ∧ file.canBeUnset field.label := by
  rw [canBeUnset_iff]
  constructor
  · exact fun written => ⟨written.plain, written.marked⟩
  · rintro ⟨plain, marked⟩
    refine ⟨?_, plain, marked⟩
    rcases marked with label | ⟨label, -⟩ <;> simp [label]

/-- The presence of a field is as it is written. -/
theorem DescribesField.presence {message : Definition} {field : Field} {schema : FieldSchema}
    (h : file.DescribesField message field schema)
    : file.PresenceAsWritten message field schema := by
  obtain ⟨bare, typed, rfl⟩ := h
  have presence := file.labelled_hasPresence message.isMapEntry field.label typed.hasPresence
  unfold PresenceAsWritten
  split
  · rename_i inMapEntry
    exact Bool.eq_false_iff.mpr fun present =>
      Bool.false_ne_true ((presence.mp present).1.symm.trans inMapEntry)
  · rename_i notEntry
    rw [presence, writtenUnsettable_iff, typed.plain_iff]
    exact and_iff_right (Bool.eq_false_iff.mpr notEntry)

/-- Every field of what a file declares has presence as it is written. -/
theorem Declares.presence {package : Package} (h : file.Declares package)
    : List.Forall₂
        (fun message schema =>
          List.Forall₂ (file.PresenceAsWritten message) message.fields schema.fields)
        file.messages package.messages :=
  h.messages.imp fun _ _ described => described.forall₂.imp fun _ _ field => field.presence

end GrpcMock.Proto.File
