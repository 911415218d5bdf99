import GrpcMock.Proofs.Go.Canonical

/-!
The shape of what is written for a field. The schema alone demands it: lists, maps and messages with
their types, and a pointer just where the field can be unset and Go has pointers.
-/

namespace GrpcMock.Go

-----------------------------------------------------------------------------------------
-- Shapes
-----------------------------------------------------------------------------------------

section Shapes

variable {σ : Type} (speller : Speller σ)

/-- The type of one value of a field, from what was mentioned before it to what is mentioned after
it. -/
inductive TypeShape (field : FieldSchema) : (before : σ) → String → (after : σ) → Prop
  | scalar {type : String} {state : σ}
      (kind : field.kind.goType? = some type)
      : TypeShape field state type state
  | enum {enum : EnumSchema} {name : String} {before after : σ}
      (kind : field.kind = .enum)
      (found : field.enumType = some enum)
      (spelled : speller.spell enum.ident before = (name, after))
      : TypeShape field before name after
  | message {schema : MessageSchema} {name : String} {before after : σ}
      (kind : field.kind = .message ∨ field.kind = .group)
      (found : field.message = some schema)
      (spelled : speller.spell schema.ident before = (name, after))
      : TypeShape field before ("*" ++ name) after

/-- The plain literal of a value of an enum or of a scalar kind. -/
inductive PlainShape (field : FieldSchema) : Value → (before : σ) → String → (after : σ) → Prop
  | enum {enum : EnumSchema} {ordinal : Int32} {member : EnumMember} {name : String}
      {before after : σ}
      (kind : field.kind = .enum)
      (found : field.enumType = some enum)
      (listed : enum.member? ordinal = some member)
      (spelled : speller.spell member.ident before = (name, after))
      : PlainShape field (.enum ordinal) before name after
  | scalar {value : Value} {text : String} {before after : σ}
      (fits : value.isOf field.kind)
      (run : (literal speller (some field) value).run.run before = (.ok text, after))
      : PlainShape field value before text after

mutual
/-- A message: its type, with its fields in braces. -/
inductive MessageShape : MessageSchema → MessageValue → (before : σ) → String → (after : σ) → Prop
  | message {schema : MessageSchema} {fields : MessageValue} {type : String} {parts : List String}
      {before between after : σ}
      (arguments : ArgumentShapes schema fields before parts between)
      (spelled : speller.spell schema.ident between = (type, after))
      : MessageShape schema fields before (composite type parts) after

/-- The fields that are set in a message, each after its name. -/
inductive ArgumentShapes
    : MessageSchema → MessageValue → (before : σ) → List String → (after : σ) → Prop
  | nil {schema : MessageSchema} {state : σ} : ArgumentShapes schema [] state [] state
  | cons {schema : MessageSchema} {field : FieldSchema} {value : Value} {fields : MessageValue}
      {expression : String} {parts : List String} {before between after : σ}
      (declared : field ∈ schema.fields)
      (first : FieldShape field value before expression between)
      (rest : ArgumentShapes schema fields between parts after)
      : ArgumentShapes schema ((field.number, value) :: fields) before
          ((field.goName ++ ": " ++ expression) :: parts) after

/-- All that a field holds. -/
inductive FieldShape : FieldSchema → Value → (before : σ) → String → (after : σ) → Prop
  | map {field key value : FieldSchema} {entries : MapValue} {keyType valueType : String}
      {parts : List String} {before between ahead after : σ}
      (isMap : field.isMap)
      (entry : field.entryFields? = some (key, value))
      (keyTyped : TypeShape speller key before keyType between)
      (valueTyped : TypeShape speller value between valueType ahead)
      (each : EntryShapes value entries ahead parts after)
      : FieldShape field (.map entries) before
          (composite ("map[" ++ keyType ++ "]" ++ valueType) parts) after
  | list {field : FieldSchema} {items : List Value} {type : String} {parts : List String}
      {before between after : σ}
      (notMap : ¬field.isMap)
      (isList : field.isList)
      (typed : TypeShape speller field before type between)
      (each : ElementShapes field items between parts after)
      : FieldShape field (.list items) before (composite ("[]" ++ type) parts) after
  | message {field : FieldSchema} {schema : MessageSchema} {message : MessageValue} {text : String}
      {before after : σ}
      (notMap : ¬field.isMap)
      (notList : ¬field.isList)
      (kind : field.kind = .message ∨ field.kind = .group)
      (found : field.message = some schema)
      (written : MessageShape schema message before text after)
      : FieldShape field (.message message) before ("&" ++ text) after
  | enumPointer {field : FieldSchema} {enum : EnumSchema} {ordinal : Int32} {member : EnumMember}
      {name : String} {before after : σ}
      (notMap : ¬field.isMap)
      (notList : ¬field.isList)
      (presence : field.hasPresence)
      (kind : field.kind = .enum)
      (found : field.enumType = some enum)
      (listed : enum.member? ordinal = some member)
      (spelled : speller.spell member.ident before = (name, after))
      : FieldShape field (.enum ordinal) before (name ++ ".Enum()") after
  | scalarPointer {field : FieldSchema} {value : Value} {type helper text : String}
      {before between after : σ}
      (notMap : ¬field.isMap)
      (notList : ¬field.isList)
      (presence : field.hasPresence)
      (notBytes : field.kind ≠ .bytes)
      (kind : field.kind.goType? = some type)
      (fits : value.isOf field.kind)
      (run : (literal speller (some field) value).run.run before = (.ok text, between))
      (spelled : speller.spell ⟨Naming.exported type, protoPath⟩ between = (helper, after))
      : FieldShape field value before (helper ++ "(" ++ text ++ ")") after
  | plain {field : FieldSchema} {value : Value} {text : String} {before after : σ}
      (notMap : ¬field.isMap)
      (notList : ¬field.isList)
      (unpointed : ¬field.hasPresence ∨ field.kind = .bytes)
      (written : PlainShape speller field value before text after)
      : FieldShape field value before text after

/-- One value in a list or in a map, where only messages are pointed to. -/
inductive ElementShape : FieldSchema → Value → (before : σ) → String → (after : σ) → Prop
  | message {field : FieldSchema} {schema : MessageSchema} {message : MessageValue} {text : String}
      {before after : σ}
      (kind : field.kind = .message ∨ field.kind = .group)
      (found : field.message = some schema)
      (written : MessageShape schema message before text after)
      : ElementShape field (.message message) before ("&" ++ text) after
  | plain {field : FieldSchema} {value : Value} {text : String} {before after : σ}
      (written : PlainShape speller field value before text after)
      : ElementShape field value before text after

inductive ElementShapes
    : FieldSchema → List Value → (before : σ) → List String → (after : σ) → Prop
  | nil {field : FieldSchema} {state : σ} : ElementShapes field [] state [] state
  | cons {field : FieldSchema} {value : Value} {values : List Value} {text : String}
      {parts : List String} {before between after : σ}
      (first : ElementShape field value before text between)
      (rest : ElementShapes field values between parts after)
      : ElementShapes field (value :: values) before (text :: parts) after

inductive EntryShapes
    : FieldSchema → MapValue → (before : σ) → List String → (after : σ) → Prop
  | nil {field : FieldSchema} {state : σ} : EntryShapes field [] state [] state
  | cons {field : FieldSchema} {key : MapKey} {value : Value} {entries : MapValue} {text : String}
      {parts : List String} {before between after : σ}
      (first : ElementShape field value before text between)
      (rest : EntryShapes field entries between parts after)
      : EntryShapes field ((key, value) :: entries) before
          ((keyLiteral key ++ ": " ++ text) :: parts) after
end

end Shapes

-----------------------------------------------------------------------------------------
-- Types
-----------------------------------------------------------------------------------------

variable {σ : Type} {speller : Speller σ}

open Rendering (run_bind_eq_ok run_pure_eq_ok run_required_eq_ok run_write_eq_ok)

/-- A kind that has a Go type is scalar; all others have types with names of their own. -/
theorem exists_goType {kind : FieldKind} (notEnum : kind ≠ .enum) (notMessage : kind ≠ .message)
    (notGroup : kind ≠ .group)
    : ∃ type, kind.goType? = some type := by
  cases kind <;> first | contradiction | exact ⟨_, rfl⟩

/-- A type that is written has the shape that the kind of its field says. -/
theorem typeShape {field : FieldSchema} {type : String} {before after : σ}
    (run : (typeName speller field).run.run before = (.ok type, after))
    : TypeShape speller field before type after := by
  unfold typeName at run
  split at run
  · rename_i kind
    simp only [run_bind_eq_ok, run_required_eq_ok, run_write_eq_ok] at run
    obtain ⟨enum, _, ⟨found, rfl⟩, spelled⟩ := run
    exact .enum kind found spelled
  · rename_i kind
    simp only [run_bind_eq_ok, run_required_eq_ok, run_write_eq_ok, run_pure_eq_ok] at run
    obtain ⟨schema, _, ⟨found, rfl⟩, name, _, spelled, rfl, rfl⟩ := run
    exact .message (.inl kind) found spelled
  · rename_i kind
    simp only [run_bind_eq_ok, run_required_eq_ok, run_write_eq_ok, run_pure_eq_ok] at run
    obtain ⟨schema, _, ⟨found, rfl⟩, name, _, spelled, rfl, rfl⟩ := run
    exact .message (.inr kind) found spelled
  · rename_i notEnum notMessage notGroup
    obtain ⟨rfl, rfl⟩ := run_pure_eq_ok.mp run
    obtain ⟨type, known⟩ := exists_goType notEnum notMessage notGroup
    rw [known]
    exact .scalar known

/-- The type of a list is that of its elements behind brackets. -/
theorem run_listType {field : FieldSchema} {text : String} {before after : σ}
    (run : (listType speller field).run.run before = (.ok text, after))
    : ∃ type, text = "[]" ++ type ∧ TypeShape speller field before type after := by
  unfold listType at run
  split at run
  · simp only [run_bind_eq_ok] at run
    obtain ⟨_, _, ⟨⟩, _⟩ := run
  · simp only [run_bind_eq_ok, run_pure_eq_ok] at run
    obtain ⟨type, _, typed, rfl, rfl⟩ := run
    exact ⟨type, rfl, typeShape typed⟩

/-- The type of a map is made of those of its keys and values, in this order. -/
theorem run_mapType {key value : FieldSchema} {text : String} {before after : σ}
    (run : (mapType speller key value).run.run before = (.ok text, after))
    : ∃ keyType valueType between,
        text = "map[" ++ keyType ++ "]" ++ valueType
        ∧ TypeShape speller key before keyType between
        ∧ TypeShape speller value between valueType after := by
  simp only [mapType, run_bind_eq_ok, run_pure_eq_ok] at run
  obtain ⟨keyType, between, keyTyped, valueType, _, valueTyped, rfl, rfl⟩ := run
  exact ⟨keyType, valueType, between, rfl, typeShape keyTyped, typeShape valueTyped⟩

-----------------------------------------------------------------------------------------
-- Pointers
-----------------------------------------------------------------------------------------

/-- The function that makes a pointer to a scalar is named after its Go type; bytes have none. -/
theorem pointerMaker?_of_isOf {value : Value} {kind : FieldKind} (fits : value.isOf kind)
    (notBytes : kind ≠ .bytes)
    : ∃ type, kind.goType? = some type ∧ pointerMaker? value = some (Naming.exported type) := by
  cases kind <;> cases value <;> first | contradiction | exact ⟨_, rfl, rfl⟩

/-- A field is set to its value, through a pointer if it can be unset. -/
theorem run_assigned {field : FieldSchema} {value : Value} {text part : String} {before after : σ}
    (run : (assigned speller field value text).run.run before = (.ok part, after))
    : ∃ expression,
        part = field.goName ++ ": " ++ expression
        ∧ if field.hasPresence then
            (pointed speller value (addressed value text)).run.run before = (.ok expression, after)
          else expression = addressed value text ∧ before = after := by
  unfold assigned at run
  dsimp only at run
  split at run
  · rename_i presence
    simp only [run_bind_eq_ok, run_pure_eq_ok] at run
    obtain ⟨expression, _, pointed, rfl, rfl⟩ := run
    exact ⟨expression, rfl, by rwa [if_pos presence]⟩
  · rename_i presence
    simp only [run_bind_eq_ok, run_pure_eq_ok] at run
    obtain ⟨_, _, ⟨rfl, rfl⟩, rfl, rfl⟩ := run
    exact ⟨_, rfl, by rw [if_neg presence]; exact ⟨rfl, rfl⟩⟩

/-- A pointer is made by a call of the function for the type of the value. -/
theorem pointed_of_pointerMaker? {value : Value} {maker : String}
    (known : pointerMaker? value = some maker) (text : String)
    : pointed speller value text
      = (speller.writeFrom protoPath maker >>= fun name => pure (name ++ "(" ++ text ++ ")")) := by
  cases value <;> cases known <;> rfl

/-- Bytes need no pointer. -/
theorem pointed_bytes {value : Value} (fits : value.isOf .bytes) (text : String)
    : pointed speller value text = pure text := by
  cases value <;> first | contradiction | rfl

/-- What no pointer is made of stands as it is, whether the field can be unset or not. -/
theorem eq_of_unpointed {field : FieldSchema} {value : Value} {text expression : String}
    {before after : σ} (unpointed : pointed speller value text = pure text)
    (run
      : if field.hasPresence then
          (pointed speller value text).run.run before = (.ok expression, after)
        else expression = text ∧ before = after)
    : expression = text ∧ before = after := by
  split at run
  · rw [unpointed, run_pure_eq_ok] at run
    exact ⟨run.1.symm, run.2⟩
  · exact run

/-- A single value becomes all that its field holds: a pointer is made of an enum or a scalar other
than bytes just if the field can be unset. -/
theorem ElementShape.field {field : FieldSchema} {value : Value} {text expression : String}
    {before between after : σ} (notMap : ¬field.isMap) (notList : ¬field.isList)
    (h : ElementShape speller field value before text between)
    (run
      : if field.hasPresence then
          (pointed speller value text).run.run between = (.ok expression, after)
        else expression = text ∧ between = after)
    : FieldShape speller field value before expression after := by
  cases h with
  | message kind found written =>
      obtain ⟨rfl, rfl⟩ := eq_of_unpointed rfl run
      exact .message notMap notList kind found written
  | plain written =>
      split at run
      · rename_i presence
        cases written with
        | enum kind found listed spelled =>
            obtain ⟨rfl, rfl⟩ := run_pure_eq_ok.mp run
            exact .enumPointer notMap notList presence kind found listed spelled
        | scalar fits written =>
            by_cases bytes : field.kind = .bytes
            · rw [pointed_bytes (bytes ▸ fits), run_pure_eq_ok] at run
              obtain ⟨rfl, rfl⟩ := run
              exact .plain notMap notList (.inr bytes) (.scalar fits written)
            · obtain ⟨type, kind, maker⟩ := pointerMaker?_of_isOf fits bytes
              rw [pointed_of_pointerMaker? maker, Speller.writeFrom] at run
              simp only [run_bind_eq_ok, run_write_eq_ok, run_pure_eq_ok] at run
              obtain ⟨helper, _, spelled, rfl, rfl⟩ := run
              exact .scalarPointer notMap notList presence bytes kind fits written spelled
      · rename_i unset
        obtain ⟨rfl, rfl⟩ := run
        exact .plain notMap notList (.inl unset) written

-----------------------------------------------------------------------------------------
-- Values
-----------------------------------------------------------------------------------------

/-- Only messages are pointed to as they stand. -/
theorem addressed_of_isOf {value : Value} {kind : FieldKind} (fits : value.isOf kind)
    (text : String)
    : addressed value text = text := by
  cases value <;> first | contradiction | rfl

/-- One value of a field is written as an element, whatever was mentioned before. -/
def WrittenAsElement (speller : Speller σ) (field : FieldSchema) (value : Value) : Prop :=
  ∀ text before after,
    (literal speller (some field) value).run.run before = (.ok text, after)
    → ElementShape speller field value before (addressed value text) after

/-- All values of a list, by induction on it. -/
theorem elementShapes {field : FieldSchema} {items : List Value} {parts : List String}
    {before after : σ} (each : ∀ item ∈ items, WrittenAsElement speller field item)
    (run : (elements speller field items).run.run before = (.ok parts, after))
    : ElementShapes speller field items before parts after := by
  induction items generalizing before parts with
  | nil =>
      obtain ⟨rfl, rfl⟩ := run_pure_eq_ok.mp run
      exact .nil
  | cons first rest ih =>
      obtain ⟨head, tail⟩ := List.forall_mem_cons.mp each
      simp only [elements, run_bind_eq_ok, run_pure_eq_ok] at run
      obtain ⟨text, _, written, _, _, others, rfl, rfl⟩ := run
      exact .cons (head _ _ _ written) (ih tail others)

/-- All entries of a map, by induction on how they are written. -/
theorem EntriesWritten.shapes {field : FieldSchema} {entries : MapValue} {parts : List String}
    {before after : σ} (h : EntriesWritten speller field entries parts before after)
    (each : ∀ pair ∈ entries, WrittenAsElement speller field pair.2)
    : EntryShapes speller field entries before parts after := by
  induction h with
  | nil => exact .nil
  | cons head _ ih =>
      obtain ⟨first, rest⟩ := List.forall_mem_cons.mp each
      exact .cons (first _ _ _ head) (ih rest)

variable {package : Package}

mutual
/-- What is written for a value that conforms to its field has the shape that the field demands, by
induction on why it conforms. -/
theorem fieldShape (h : package.WellFormed) {field : FieldSchema} {value : Value}
    : ConformingField field value
      → package.HasField field
      → ∀ text part before between after,
          (literal speller (some field) value).run.run before = (.ok text, between)
          → (assigned speller field value text).run.run between = (.ok part, after)
          → ∃ expression,
              part = field.goName ++ ": " ++ expression
              ∧ FieldShape speller field value before expression after
  | @ConformingField.map _ key value entries isMap entry ascending keys values, inside => by
      intro text part before between after written given
      obtain ⟨keyInside, valueInside⟩ := inside.entry h entry
      simp only [literal, run_bind_eq_ok, run_required_eq_ok, run_pure_eq_ok] at written
      obtain ⟨_, _, ⟨⟨⟩, rfl⟩, ⟨_, _⟩, _, fields, type, _, typed, parts, _, listed, rfl, rfl⟩ :=
        written
      obtain ⟨again, rfl⟩ := run_mapFields fields
      cases entry.symm.trans again
      obtain ⟨keyType, valueType, _, rfl, keyTyped, valueTyped⟩ := run_mapType typed
      rw [ofList_entryLiterals_of_ascending ascending] at listed
      obtain ⟨expression, rfl, pointed⟩ := run_assigned given
      obtain ⟨rfl, rfl⟩ := eq_of_unpointed rfl pointed
      have shapes := (entriesWritten_of_inOrder listed).shapes fun pair member =>
        elementShape h (values pair member) valueInside
      exact ⟨_, rfl, .map isMap entry keyTyped valueTyped shapes⟩
  | @ConformingField.list _ items notMap isList each, inside => by
      intro text part before between after written given
      simp only [literal, run_bind_eq_ok, run_required_eq_ok, run_pure_eq_ok] at written
      obtain ⟨_, _, ⟨⟨⟩, rfl⟩, _, _, typed, parts, _, listed, rfl, rfl⟩ := written
      obtain ⟨type, rfl, elementTyped⟩ := run_listType typed
      obtain ⟨expression, rfl, pointed⟩ := run_assigned given
      obtain ⟨rfl, rfl⟩ := eq_of_unpointed rfl pointed
      have shapes := elementShapes (fun item member => elementShape h (each item member) inside)
        listed
      exact ⟨_, rfl, .list notMap isList elementTyped shapes⟩
  | .single notMap notList conforms, inside => by
      intro text part before between after written given
      obtain ⟨expression, rfl, pointed⟩ := run_assigned given
      have shape := elementShape h conforms inside text before between written
      exact ⟨expression, rfl, shape.field notMap notList pointed⟩

/-- A value that conforms has the shape of an element, by induction on how it conforms. -/
theorem elementShape (h : package.WellFormed) {field : FieldSchema} {value : Value}
    : ConformingValue field value
      → package.HasField field
      → WrittenAsElement speller field value
  | .message kind found fields, inside => by
      intro text before after run
      have member := inside.message_mem h found
      simp only [literal, run_bind_eq_ok, run_required_eq_ok, run_write_eq_ok,
        run_pure_eq_ok] at run
      obtain
        ⟨_, _, ⟨⟨⟩, rfl⟩, schema, _, ⟨again, rfl⟩, parts, _, given, type, _, spelled, rfl, rfl⟩ :=
        run
      cases found.symm.trans again
      have arguments := argumentShapes h fields (List.Subset.refl _) member _ _ _ given
      exact .message kind found (.message arguments spelled)
  | .enum kind found member, _ => by
      intro text before after run
      simp only [literal, enumLiteral, run_bind_eq_ok, run_required_eq_ok] at run
      obtain ⟨_, _, ⟨⟨⟩, rfl⟩, enum, _, ⟨again, rfl⟩, run⟩ := run
      cases found.symm.trans again
      obtain ⟨member, listed⟩ := Option.isSome_iff_exists.mp member
      rw [listed, run_write_eq_ok] at run
      exact .plain (.enum kind found listed run)
  | .scalar fits, _ => by
      intro text before after run
      rw [addressed_of_isOf fits]
      exact .plain (.scalar fits run)

/-- So have the fields of a message that conform, one by one. -/
theorem argumentShapes (h : package.WellFormed) {schema : MessageSchema}
    {fields : List FieldSchema} {message : MessageValue}
    : ConformingFields fields message
      → fields ⊆ schema.fields
      → schema ∈ package.messages
      → ∀ parts before after,
          (arguments speller schema message).run.run before = (.ok parts, after)
          → ArgumentShapes speller schema message before parts after
  | .nil, _, _ => by
      intro parts before after run
      obtain ⟨rfl, rfl⟩ := run_pure_eq_ok.mp run
      exact .nil
  | .skip rest, included, member =>
      argumentShapes h rest (List.subset_of_cons_subset included) member
  | .set first _ rest, included, member => by
      intro parts before after run
      have declared := included (List.mem_cons_self ..)
      rw [arguments, (h.messages schema member).fieldNumbered? declared] at run
      simp only [run_bind_eq_ok, run_pure_eq_ok] at run
      obtain ⟨text, _, written, part, _, given, others, _, more, rfl, rfl⟩ := run
      obtain ⟨expression, rfl, shape⟩ :=
        fieldShape h first ⟨schema, member, declared⟩ _ _ _ _ _ written given
      exact .cons declared shape
        (argumentShapes h rest (List.subset_of_cons_subset included) member _ _ _ more)
end

/-- The literal of a message that conforms to its schema. -/
theorem messageShape (h : package.WellFormed) {schema : MessageSchema} {message : MessageValue}
    (member : schema ∈ package.messages) (conforms : schema.Accepts message) {text : String}
    {before after : σ}
    (run : (messageLiteral speller schema message).run.run before = (.ok text, after))
    : MessageShape speller schema message before text after := by
  simp only [messageLiteral, run_bind_eq_ok, run_write_eq_ok, run_pure_eq_ok] at run
  obtain ⟨parts, _, given, type, _, spelled, rfl, rfl⟩ := run
  exact .message (argumentShapes h conforms (List.Subset.refl _) member _ _ _ given) spelled

end GrpcMock.Go
