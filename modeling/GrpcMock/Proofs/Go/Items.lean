import GrpcMock.Proofs.Go.Scalars
import GrpcMock.Proofs.Lists
import GrpcMock.Proofs.Value.Keys

/-!
The texts of values that stand in other values. A value of a message may be pointed to, or be given
to a function that makes a pointer; what is put around it depends on the field and on the type of
the value, but not on the value.
-/

namespace GrpcMock.Go

open GrpcMock.Go.Rendering (outcome outcome_bind outcome_required)

section Items

variable {spell : GoIdent → String} {field : FieldSchema}

-----------------------------------------------------------------------------------------
-- Items
-----------------------------------------------------------------------------------------

def elementText (spell : GoIdent → String) (field : FieldSchema) (value : Value)
    : Except Failure String := do
  let text ← literalText spell field value
  pure (addressed value text)

def entryText (spell : GoIdent → String) (field : FieldSchema) (entry : MapKey × Value)
    : Except Failure String := do
  let text ← literalText spell field entry.2
  pure (keyLiteral entry.1 ++ ": " ++ addressed entry.2 text)

def argumentText (spell : GoIdent → String) (schema : MessageSchema) (argument : UInt32 × Value)
    : Except Failure String :=
  match schema.fieldNumbered? argument.1 with
  | none => .error (.fieldNotFound argument.1 schema.fullName)
  | some field => do
      let text ← literalText spell field argument.2
      (assigned (.ofFunction spell) field argument.2 text).outcome

/-- The elements of a list have the texts of each. -/
theorem outcome_elements (items : List Value)
    : outcome (elements (.ofFunction spell) field items)
      = items.mapM (elementText spell field) := by
  induction items with
  | nil => rfl
  | cons first rest ih =>
      simp [elements, ih, elementText, literalText]

/-- The fields of a message have the texts of each. -/
theorem outcome_arguments {schema : MessageSchema} (message : MessageValue)
    : outcome (arguments (.ofFunction spell) schema message)
      = message.mapM (argumentText spell schema) := by
  induction message with
  | nil => rfl
  | cons first rest ih =>
      rw [arguments, List.mapM_cons, argumentText]
      cases schema.fieldNumbered? first.1 with
      | none => rfl
      | some field => simp [ih, literalText]

/-- What is rendered in order has the texts of each in this order. -/
theorem outcome_inOrder (renderings : List (Rendering Unit String))
    : outcome (inOrder renderings) = renderings.mapM outcome := by
  induction renderings with
  | nil => rfl
  | cons first rest ih => simp [inOrder, ih]

/-- The entries of a map are rendered each for itself, under their keys. -/
theorem entryLiterals_eq {σ : Type} {speller : Speller σ} (entries : MapValue)
    : entryLiterals speller field entries
      = entries.map fun entry =>
          (entry.1, do
            let text ← literal speller (some field) entry.2
            pure (keyLiteral entry.1 ++ ": " ++ addressed entry.2 text)) := by
  induction entries with
  | nil => rfl
  | cons first rest ih => rw [entryLiterals, ih, List.map_cons]

/-- Renderings of entries in the order of their keys stay in it. -/
theorem ofList_entryLiterals_of_ascending {σ : Type} {speller : Speller σ} {entries : MapValue}
    (ascending : Sorted.Ascending entries)
    : Sorted.ofList (entryLiterals speller field entries)
      = entryLiterals speller field entries := by
  refine Sorted.ofList_eq_of_perm ?_ (.refl _)
  rw [entryLiterals_eq]
  exact List.pairwise_map.mpr ascending

/-- Entries in the order of their keys are written as they stand. -/
theorem outcome_entries {entries : MapValue} (ascending : Sorted.Ascending entries)
    : outcome
        (inOrder
          ((Sorted.ofList (entryLiterals (.ofFunction spell) field entries)).map Prod.snd))
      = entries.mapM (entryText spell field) := by
  rw [outcome_inOrder, ofList_entryLiterals_of_ascending ascending, entryLiterals_eq, List.map_map,
    List.mapM_map]
  congr 1
  funext entry
  simp [entryText, literalText]

-----------------------------------------------------------------------------------------
-- Values made of items
-----------------------------------------------------------------------------------------

/-- The text of an enum is the name of one of its members. -/
theorem literalText_enum {ordinal : Int32} {text : String}
    (written : literalText spell field (.enum ordinal) = .ok text)
    : ∃ enum member,
        field.enumType = some enum
        ∧ enum.member? ordinal = some member
        ∧ text = spell member.ident := by
  simp only [literalText, literal, enumLiteral, outcome_bind, bind_eq_ok, outcome_required]
    at written
  obtain ⟨_, ⟨⟩, enum, found, written⟩ := written
  split at written
  · cases written
    exact ⟨enum, _, found, ‹_›, rfl⟩
  · cases written

/-- The texts of the items are put together. -/
theorem literalText_message {schema : MessageSchema} {message : MessageValue} {text : String}
    (found : field.message = some schema)
    (written : literalText spell field (.message message) = .ok text)
    : ∃ parts,
        List.Forall₂ (fun argument part => argumentText spell schema argument = .ok part) message
          parts
        ∧ text = composite (spell schema.ident) parts := by
  simp only [literalText, literal, outcome_bind, bind_eq_ok, outcome_required, outcome_arguments,
    mapM_eq_ok] at written
  obtain ⟨_, ⟨⟩, other, found', parts, each, _, ⟨⟩, ⟨⟩⟩ := written
  cases found.symm.trans found'
  exact ⟨parts, each, rfl⟩

/-- The text of a list is its type around the texts of its elements. -/
theorem literalText_list {items : List Value} {text : String}
    (written : literalText spell field (.list items) = .ok text)
    : ∃ type parts,
        (listType (.ofFunction spell) field).outcome = .ok type
        ∧ List.Forall₂ (fun item part => elementText spell field item = .ok part) items parts
        ∧ text = composite type parts := by
  simp only [literalText, literal, outcome_bind, bind_eq_ok, outcome_required, outcome_elements,
    mapM_eq_ok] at written
  obtain ⟨_, ⟨⟩, type, typed, parts, each, ⟨⟩⟩ := written
  exact ⟨type, parts, typed, each, rfl⟩

/-- The fields of the entries of a map are those of its schema. -/
theorem outcome_mapFields {fields : FieldSchema × FieldSchema}
    (written : outcome (mapFields field : Rendering Unit _) = .ok fields)
    : field.entryFields? = some fields := by
  simp only [mapFields, outcome_bind, bind_eq_ok, outcome_required] at written
  obtain ⟨entry, found, written⟩ := written
  split at written
  · cases written
  · cases written
    exact found

/-- The text of a map whose keys are in order is its type around the texts of its entries. -/
theorem literalText_map {key value : FieldSchema} {entries : MapValue} {text : String}
    (entry : field.entryFields? = some (key, value)) (ascending : Sorted.Ascending entries)
    (written : literalText spell field (.map entries) = .ok text)
    : ∃ type parts,
        (mapType (.ofFunction spell) key value).outcome = .ok type
        ∧ List.Forall₂ (fun entry part => entryText spell value entry = .ok part) entries parts
        ∧ text = composite type parts := by
  simp only [literalText, literal, outcome_bind, bind_eq_ok, outcome_required] at written
  obtain ⟨_, ⟨⟩, fields, found, type, typed, parts, each, ⟨⟩⟩ := written
  cases entry.symm.trans (outcome_mapFields found)
  rw [outcome_entries ascending, mapM_eq_ok] at each
  exact ⟨type, parts, typed, each, rfl⟩

-----------------------------------------------------------------------------------------
-- What is put around a value
-----------------------------------------------------------------------------------------

/-- A sign stands in front of a text, whatever that is. -/
theorem addressed_eq (value : Value) (text : String)
    : addressed value text = addressed value "" ++ text := by
  cases value <;> simp [addressed]

/-- Whether it does depends on the type of the value only. -/
theorem addressed_congr {left right : Value} (alike : left.kindName = right.kindName)
    (text : String)
    : addressed left text = addressed right text := by
  cases Value.SameKind.of_kindName alike <;> rfl

/-- What stands before and after the text of a value in a message. -/
def wrapping (spell : GoIdent → String) (field : FieldSchema) (value : Value)
    : String × String :=
  if field.hasPresence then
    match value with
    | .enum _ => ("", ".Enum()")
    | value =>
        match pointerMaker? value with
        | none => (addressed value "", "")
        | some maker => (spell ⟨maker, protoPath⟩ ++ "(", ")")
  else (addressed value "", "")

def wrapped (spell : GoIdent → String) (field : FieldSchema) (value : Value) (text : String)
    : String :=
  (wrapping spell field value).1 ++ text ++ (wrapping spell field value).2

/-- A field is set to the text of its value with what is put around that. -/
theorem outcome_assigned {value : Value} {text : String}
    : (assigned (.ofFunction spell) field value text).outcome
      = .ok (field.goName ++ ": " ++ wrapped spell field value text) := by
  unfold assigned wrapped wrapping
  split
  · cases value <;> simp [pointed, pointerMaker?, addressed, Speller.writeFrom]
  · rw [addressed_eq]
    simp

/-- What is put around a text depends on the type of the value only. -/
theorem wrapping_congr {left right : Value} (alike : left.kindName = right.kindName)
    : wrapping spell field left = wrapping spell field right := by
  cases Value.SameKind.of_kindName alike <;> rfl

/-- Only a member of an enum that can be unset has a method called on it. -/
theorem wrapping_back (spell : GoIdent → String) (field : FieldSchema) (value : Value)
    : (wrapping spell field value).2 = ""
      ∨ (wrapping spell field value).2 = ")"
      ∨ (wrapping spell field value).2 = ".Enum()" ∧ value.kindName = "enum" := by
  unfold wrapping
  split
  · cases value <;> simp [pointerMaker?, Value.kindName]
  · simp

end Items

end GrpcMock.Go
