import GrpcMock.Proofs.Proto.Written

/-!
The messages that fields bring with them. A map field stands beside the message for its entries and
a group beside the message that it is; both carry the place of the field, which tells them from the
companions of other fields.
-/

namespace GrpcMock.Proto

/-- The message that belongs to a field alone: the one for the entries of a map, or a group. It is
at the place of the field and has the name by which the field is typed. -/
inductive CompanionOf (owner : String) : Field → Definition → Prop
  | entry {name : String} {position : Position} {number : Int32} {key value : Token}
    : CompanionOf owner (.ofMap owner name position number)
        (mapEntry (entryName owner name) position key value)
  | group {name : Token} {isRepeated : Bool} {number : Int32} {fields : List Field}
    : CompanionOf owner (.ofGroup owner name isRepeated number)
        ⟨inScope owner name.text, name.position, .message, fields, false⟩

/-- A field of a message needs no companion, or it has one among the definitions of the file. -/
inductive Companion (definitions : List Definition) (owner : String) (field : Field) : Prop
  | plain (plain : field.IsPlain)
  | own {own : Definition} (present : own ∈ definitions) (companion : CompanionOf owner field own)

/-- A field keeps its companion when there are more definitions. -/
theorem Companion.mono {definitions more : List Definition} {owner : String} {field : Field}
    (h : Companion definitions owner field) (included : definitions ⊆ more)
    : Companion more owner field := by
  cases h with
  | plain plain => exact .plain plain
  | own present companion => exact .own (included present) companion

/-- Each field of a message in one list has its companion in another. -/
def Accompanied (definitions messages : List Definition) : Prop :=
  ∀ message ∈ messages,
    message.kind = .message → ∀ field ∈ message.fields, Companion definitions message.name field

/-- So all fields of some messages keep theirs. -/
theorem Accompanied.mono {definitions more messages : List Definition}
    (h : Accompanied definitions messages) (included : definitions ⊆ more)
    : Accompanied more messages :=
  fun message member kind field inside => (h message member kind field inside).mono included

/-- Lists of such messages can be put together. -/
theorem Accompanied.append {definitions left right : List Definition}
    (hl : Accompanied definitions left) (hr : Accompanied definitions right)
    : Accompanied definitions (left ++ right) := by
  intro message member
  rcases List.mem_append.mp member with member | member
  · exact hl message member
  · exact hr message member

/-- The values of an enum need no companion. -/
theorem EnumWritten.accompanied {scope : String} {enum : Definition} (h : EnumWritten scope enum)
    (definitions : List Definition)
    : Accompanied definitions [enum] := by
  cases h with
  | intro named each =>
      intro message member kind
      rw [List.mem_singleton.mp member] at kind
      cases kind

/-- The fields of an entry bring nothing with them. -/
theorem mapEntry_accompanied {name : String} {position : Position} {key value : Token}
    (keyType : isTypeName key.text) (valueType : isTypeName value.text)
    (definitions : List Definition)
    : Accompanied definitions [mapEntry name position key value] := by
  have keyName : isIdentifier "key" := by decide +kernel
  have valueName : isIdentifier "value" := by decide +kernel
  intro message member _ field inside
  cases List.mem_singleton.mp member
  simp only [mapEntry, List.mem_cons, List.not_mem_nil, or_false] at inside
  rcases inside with rfl | rfl
  · exact .plain ⟨keyName, ⟨_, rfl, keyType⟩, by simp, rfl⟩
  · exact .plain ⟨valueName, ⟨_, rfl, valueType⟩, by simp, rfl⟩

/-- A body in which each field has its companion. -/
structure MessageBody.Accompanied (scope : String) (body : MessageBody) : Prop where
  fields : ∀ field ∈ body.fields, Companion body.nested scope field
  nested : Proto.Accompanied body.nested body.nested

/-- Fields that come with their companions can be put in front of a body. -/
theorem MessageBody.Accompanied.after {scope : String} {fields : List Field}
    {definitions : List Definition} {body : MessageBody} (h : body.Accompanied scope)
    (hf : ∀ field ∈ fields, Companion definitions scope field)
    (hd : Proto.Accompanied definitions definitions)
    : (body.after fields definitions).Accompanied scope := by
  have first : definitions ⊆ definitions ++ body.nested := List.subset_append_left _ _
  have second : body.nested ⊆ definitions ++ body.nested := List.subset_append_right _ _
  refine ⟨fun field member => ?_, (hd.mono first).append (h.nested.mono second)⟩
  rcases List.mem_append.mp member with member | member
  · exact (hf field member).mono first
  · exact (h.fields field member).mono second

/-- A message with what is nested in it brings all companions of its fields. -/
theorem MessageBody.Accompanied.definitions {scope : String} {position : Position}
    {body : MessageBody} (h : body.Accompanied scope)
    : Proto.Accompanied (body.definitions scope position) (body.definitions scope position) := by
  have included : body.nested ⊆ body.definitions scope position := List.subset_cons_self _ _
  intro message member
  rcases List.mem_cons.mp member with rfl | member
  · exact fun _ field inside => (h.fields field inside).mono included
  · exact h.nested.mono included message member

/-- Every body that can be written holds the companions of its fields, by induction on how it is
written. -/
theorem MessageBody.Written.accompanied {scope : String} {body : MessageBody}
    (h : body.Written scope)
    : body.Accompanied scope := by
  induction h with
  | close => exact ⟨by simp [MessageBody.empty], by simp [MessageBody.empty, Proto.Accompanied]⟩
  | field item rest ih =>
      cases item with
      | field plain =>
          refine ih.after (fun field member => ?_) (by simp [Proto.Accompanied])
          exact List.mem_singleton.mp member ▸ .plain plain
  | mapField item rest ih =>
      cases item with
      | mapField named keyType valueType =>
          refine ih.after (fun field member => ?_) (mapEntry_accompanied keyType valueType _)
          exact List.mem_singleton.mp member ▸ .own (List.mem_singleton_self _) .entry
  | enum item rest ih =>
      cases item with
      | enum written => exact ih.after (by simp) (written.accompanied _)
  | message item nested rest inner outer =>
      refine outer.after (fun field member => ?_) inner.definitions
      cases item with
      | message named => simp at member
      | group named =>
          exact List.mem_singleton.mp member ▸ .own (List.mem_cons_self ..) .group

/-- In a file every map field and every group has its companion, by induction on how it is read. -/
theorem DefinitionsWritten.accompanied {definitions : List Definition}
    (h : DefinitionsWritten definitions)
    : Accompanied definitions definitions := by
  induction h with
  | nil => simp [Accompanied]
  | @enum earlier definition before written ih =>
      have first : earlier ⊆ earlier ++ [definition] := List.subset_append_left _ _
      exact (ih.mono first).append (written.accompanied _)
  | @message earlier name position body before named written ih =>
      have first : earlier ⊆ earlier ++ body.definitions name position :=
        List.subset_append_left _ _
      have second : body.definitions name position ⊆ earlier ++ body.definitions name position :=
        List.subset_append_right _ _
      exact (ih.mono first).append (written.accompanied.definitions.mono second)

/-- A companion is what its field is typed by. -/
theorem CompanionOf.type {owner : String} {field : Field} {own : Definition}
    (h : CompanionOf owner field own)
    : field.type = some own.name := by
  cases h <;> rfl

/-- Each field of a message has a type. -/
theorem Companion.typed {definitions : List Definition} {owner : String} {field : Field}
    (h : Companion definitions owner field)
    : ∃ type, field.type = some type := by
  cases h with
  | plain plain =>
      obtain ⟨type, same, -⟩ := plain.type
      exact ⟨type, same⟩
  | own _ companion => exact ⟨_, companion.type⟩

end GrpcMock.Proto
