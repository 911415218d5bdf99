import GrpcMock.Proofs.Go.Accounted
import GrpcMock.Proofs.Sorted
import GrpcMock.Proofs.Text.Lines

/-!
Literals stand on one line. Whatever a contract says, its texts are quoted, and all else in a
literal comes of numbers and of names that hold no line break.
-/

namespace GrpcMock

open GrpcMock.Text (OneLine newline_not_mem_quote)

/-- A word has no line break in it. -/
theorem IsWord.oneLine {text : String} (h : IsWord text) : OneLine text :=
  newline_not_mem_of_isWord h

namespace Go

variable {α β : Type} {holds : α → Prop} {holdsToo : β → Prop}

-----------------------------------------------------------------------------------------
-- Renderings
-----------------------------------------------------------------------------------------

/-- If all packages that were imported before have names, then all that are imported after have
names too, and what is rendered has a property. -/
def Yields (holds : α → Prop) (rendering : Rendering Imports α) : Prop :=
  ∀ before value after,
    before.WellNamed → rendering.run.run before = (.ok value, after) → after.WellNamed ∧ holds value

namespace Yields

/-- What needs no import yields itself. -/
theorem pure {value : α} (h : holds value) : Yields holds (pure value) := by
  intro before result after named run
  obtain ⟨rfl, rfl⟩ := Rendering.run_pure_eq_ok.mp run
  exact ⟨named, h⟩

/-- What fails yields nothing that could lack a property. -/
theorem throw {failure : Failure} : Yields holds (throw failure) := by
  intro before result after named run
  cases run

/-- Two steps yield what the second one does, given what the first one yields. -/
theorem bind {first : Rendering Imports α} {next : α → Rendering Imports β}
    (hf : Yields holds first) (hn : ∀ value, holds value → Yields holdsToo (next value))
    : Yields holdsToo (first >>= next) := by
  intro before result after named run
  obtain ⟨value, between, firstRun, nextRun⟩ := Rendering.run_bind_eq_ok.mp run
  obtain ⟨namedToo, is⟩ := hf _ _ _ named firstRun
  exact hn value is _ _ _ namedToo nextRun

/-- Nothing follows a failure. -/
theorem throw_bind {failure : Failure} {next : α → Rendering Imports β}
    : Yields holdsToo (MonadExcept.throw failure >>= next) := by
  have never : Yields (fun _ : α => False) (MonadExcept.throw failure) := throw
  exact never.bind fun _ none => none.elim

/-- A part of a schema that is there is given to what follows. -/
theorem required {field expected : String} {part : Option α} {next : α → Rendering Imports β}
    (hn : ∀ value, part = some value → Yields holdsToo (next value))
    : Yields holdsToo (required field expected part >>= next) := by
  cases part with
  | none => exact throw_bind
  | some value => exact hn value rfl

/-- The fields for the entries of a map are given to what follows. -/
theorem mapFields {field : FieldSchema} {next : FieldSchema × FieldSchema → Rendering Imports β}
    (hn : ∀ fields, field.entryFields? = some fields → Yields holdsToo (next fields))
    : Yields holdsToo (mapFields field >>= next) := by
  unfold Go.mapFields
  simp only [bind_assoc]
  refine .required fun fields found => ?_
  split
  · exact throw_bind
  · exact hn fields found

end Yields

/-- An identifier stands on one line, with its package or without. -/
theorem Imports.WellNamed.oneLine_spell {imports : Imports} (h : imports.WellNamed)
    {ident : GoIdent} (name : OneLine ident.name)
    : OneLine (imports.spell ident).1 := by
  by_cases within : imports.IsLocal ident
  · rw [spell_of_isLocal within]
    exact name
  · rw [spell_of_not_isLocal within]
    have identifier := (h.importPath ident.importPath).isIdentifier (imports.name?_importPath _)
    have package : OneLine (imports.importPath ident.importPath).1 :=
      Proto.isIdentifier_newline_not_mem identifier
    exact (package.append (by decide)).append name

/-- An identifier without a line break is written without one. -/
theorem Yields.write {ident : GoIdent} (name : OneLine ident.name)
    : Yields OneLine (Speller.imports.write ident) := by
  intro before text after named run
  obtain ⟨rfl, rfl⟩ := Prod.ext_iff.mp (Rendering.run_write_eq_ok.mp run)
  exact ⟨named.spell ident, named.oneLine_spell name⟩

-----------------------------------------------------------------------------------------
-- Scalars
-----------------------------------------------------------------------------------------

/-- A number stands on one line. -/
theorem oneLine_toString (number : Int) : OneLine (toString number) := by
  intro newline
  rcases Decimal.mem_toString newline with digit | same
  · exact absurd digit (by decide)
  · exact absurd same (by decide)

/-- No line break is part of a floating-point number. -/
theorem IsFloat.newline_not_mem {numeral : List Char} (h : IsFloat numeral) : '\n' ∉ numeral := by
  obtain ⟨signed, _, digits⟩ := h
  intro newline
  simp only [List.mem_append, List.mem_cons] at newline
  rcases newline with (sign | whole) | same | fraction
  · rcases signed with rfl | rfl <;> simp at sign
  · exact absurd (digits _ (List.mem_append_left _ whole)) (by decide)
  · exact absurd same (by decide)
  · exact absurd (digits _ (List.mem_append_right _ fraction)) (by decide)

/-- A number that is not finite stands on one line, converted or not. -/
theorem oneLine_special {format : Binary.Format} {text : String} (h : OneLine text)
    : OneLine (special format text) := by
  unfold special
  split
  · exact (OneLine.append (by decide) h).append (by decide)
  · exact h

/-- The literal of a float or double stands on one line. -/
theorem floatLiteral_oneLine {format : Binary.Format} {bits : Nat}
    : Yields OneLine (floatLiteral .imports format bits) := by
  unfold floatLiteral
  split
  · refine .pure ?_
    rw [OneLine, String.toList_ofList]
    exact (isFloat_renderFixed ..).newline_not_mem
  · refine .bind (.write (by decide)) fun name oneLine => .pure ?_
    exact oneLine_special (oneLine.append (by decide))
  · refine .bind (.write (by decide)) fun name oneLine => .pure ?_
    exact oneLine_special (oneLine.append (by split <;> decide))

/-- A composite literal stands on one line if its type and its elements do. -/
theorem oneLine_composite {type : String} {parts : List String} (ht : OneLine type)
    (hp : ∀ part ∈ parts, OneLine part)
    : OneLine (composite type parts) :=
  ((ht.append (by decide)).append (.intercalate (by decide) hp)).append (by decide)

/-- The key of a map stands on one line, as a text is quoted in it. -/
theorem oneLine_keyLiteral (key : MapKey) : OneLine (keyLiteral key) := by
  cases key with
  | bool value => cases value <;> decide
  | int32 value | int64 value => exact oneLine_toString value.toInt
  | uint32 value | uint64 value => exact oneLine_toString value.toNat
  | string value => exact newline_not_mem_quote value

/-- A sign in front of a literal breaks no line. -/
theorem oneLine_addressed {value : Value} {text : String} (h : OneLine text)
    : OneLine (addressed value text) := by
  unfold addressed
  split
  · exact OneLine.append (by decide) h
  · exact h

/-- Neither does the call that makes a pointer of a value. -/
theorem pointed_oneLine {value : Value} {text : String} (h : OneLine text)
    : Yields OneLine (pointed .imports value text) := by
  unfold pointed
  split
  · exact .pure (h.append (by decide))
  · split
    · exact .pure h
    · rename_i maker known
      have word : OneLine maker := by
        unfold pointerMaker? at known
        split at known <;> cases known <;> decide
      refine .bind (.write word) fun name oneLine => .pure ?_
      exact ((oneLine.append (by decide)).append h).append (by decide)

-----------------------------------------------------------------------------------------
-- Types and fields
-----------------------------------------------------------------------------------------

variable {package : Package}

section Types

variable (h : package.WellFormed) (named : package.GoNamed) {field : FieldSchema}

include h named

/-- The type of a field stands on one line, be it scalar, an enum or a message. -/
theorem typeName_oneLine (inside : package.HasField field)
    : Yields OneLine (typeName .imports field) := by
  have message {schema : MessageSchema} (found : field.message = some schema)
      : Yields OneLine (Speller.imports.write schema.ident) :=
    .write (named.messages schema (inside.message_mem h found)).oneLine
  unfold typeName
  split
  · exact .required fun enum found => .write (named.enums enum (inside.enum_mem h found)).oneLine
  · exact .required fun _ found => (message found).bind fun _ oneLine =>
      .pure (OneLine.append (by decide) oneLine)
  · exact .required fun _ found => (message found).bind fun _ oneLine =>
      .pure (OneLine.append (by decide) oneLine)
  · refine .pure ?_
    cases field.kind <;> decide

/-- The literal of an enum is the name of one of its members and stands on one line. -/
theorem enumLiteral_oneLine (inside : package.HasField field) {ordinal : Int32}
    : Yields OneLine (enumLiteral .imports field ordinal) := by
  refine .required fun enum found => ?_
  split
  · rename_i member listed
    have word := named.members enum (inside.enum_mem h found) member
      (EnumSchema.mem_of_member? listed)
    exact .write word.oneLine
  · exact .throw

omit h in
/-- What a field is set to stands on one line if its value does. -/
theorem assigned_oneLine (inside : package.HasField field) {value : Value} {text : String}
    (oneLine : OneLine text)
    : Yields OneLine (assigned .imports field value text) := by
  have label {expression : String} (oneLine : OneLine expression)
      : OneLine (field.goName ++ ": " ++ expression) :=
    ((named.fields field inside).oneLine.append (by decide)).append oneLine
  unfold assigned
  dsimp only
  split
  · exact (pointed_oneLine (oneLine_addressed oneLine)).bind fun _ oneLine => .pure (label oneLine)
  · exact .pure (label (oneLine_addressed oneLine))

/-- The type of a list stands on one line. -/
theorem listType_oneLine (inside : package.HasField field)
    : Yields OneLine (listType .imports field) := by
  unfold listType
  split
  · exact .throw_bind
  · exact (typeName_oneLine h named inside).bind fun _ oneLine =>
      .pure (OneLine.append (by decide) oneLine)

/-- The type of a map stands on one line. -/
theorem mapType_oneLine {key value : FieldSchema} (keyInside : package.HasField key)
    (valueInside : package.HasField value)
    : Yields OneLine (mapType .imports key value) := by
  refine (typeName_oneLine h named keyInside).bind fun _ oneLine => ?_
  refine (typeName_oneLine h named valueInside).bind fun _ oneLineToo => .pure ?_
  exact ((OneLine.append (by decide) oneLine).append (by decide)).append oneLineToo

end Types

-----------------------------------------------------------------------------------------
-- Literals
-----------------------------------------------------------------------------------------

/-- Parts that stand on one line each still do if they are rendered one after the other. -/
theorem inOrder_oneLine {renderings : List (Rendering Imports String)}
    (each : ∀ rendering ∈ renderings, Yields OneLine rendering)
    : Yields (fun parts => ∀ part ∈ parts, OneLine part) (inOrder renderings) := by
  induction renderings with
  | nil => exact .pure nofun
  | cons first rest ih =>
      obtain ⟨head, tail⟩ := List.forall_mem_cons.mp each
      exact head.bind fun _ oneLine => (ih tail).bind fun _ others =>
        .pure (List.forall_mem_cons.mpr ⟨oneLine, others⟩)

mutual
/-- The literal of any value of a field stands on one line, by induction on the value. -/
theorem literal_oneLine (h : package.WellFormed) (named : package.GoNamed) {field : FieldSchema}
    (inside : package.HasField field)
    : ∀ value : Value, Yields OneLine (literal .imports (some field) value)
  | .bool value => .pure (by cases value <;> decide)
  | .int32 value => .pure (oneLine_toString value.toInt)
  | .int64 value => .pure (oneLine_toString value.toInt)
  | .uint32 value => .pure (oneLine_toString value.toNat)
  | .uint64 value => .pure (oneLine_toString value.toNat)
  | .float32 _ => floatLiteral_oneLine
  | .float64 _ => floatLiteral_oneLine
  | .string value => .pure (newline_not_mem_quote value)
  | .bytes value => by
      refine .pure (oneLine_composite (by decide) fun part member => ?_)
      obtain ⟨byte, -, rfl⟩ := List.mem_map.mp member
      exact (isWord_byteLiteral byte).oneLine
  | .enum ordinal => by
      rw [literal]
      refine .required fun _ same => ?_
      cases same
      exact enumLiteral_oneLine h named inside
  | .message fields => by
      rw [literal]
      refine .required fun _ same => .required fun schema found => ?_
      cases same
      have member := inside.message_mem h found
      refine (arguments_oneLine h named member fields).bind fun _ parts => ?_
      exact (Yields.write (named.messages schema member).oneLine).bind fun _ type =>
        .pure (oneLine_composite type parts)
  | .list items => by
      rw [literal]
      refine .required fun _ same => ?_
      cases same
      refine (listType_oneLine h named inside).bind fun _ type => ?_
      exact (elements_oneLine h named inside items).bind fun _ parts =>
        .pure (oneLine_composite type parts)
  | .map entries => by
      rw [literal]
      refine .required fun _ same => ?_
      cases same
      refine .mapFields fun fields found => ?_
      obtain ⟨keyInside, valueInside⟩ := inside.entry h found
      refine (mapType_oneLine h named keyInside valueInside).bind fun _ type => ?_
      refine (inOrder_oneLine fun rendering member => ?_).bind fun _ parts =>
        .pure (oneLine_composite type parts)
      obtain ⟨entry, sorted, rfl⟩ := List.mem_map.mp member
      exact entryLiterals_oneLine h named valueInside entries entry (Sorted.mem_ofList sorted)

/-- The fields in a literal stand on one line each. -/
theorem arguments_oneLine (h : package.WellFormed) (named : package.GoNamed)
    {schema : MessageSchema} (member : schema ∈ package.messages)
    : ∀ fields : List (UInt32 × Value),
        Yields (fun parts => ∀ part ∈ parts, OneLine part) (arguments .imports schema fields)
  | [] => .pure nofun
  | (number, value) :: rest => by
      rw [arguments]
      split
      · exact .throw
      rename_i field found
      have inside : package.HasField field :=
        ⟨schema, member, (MessageSchema.mem_of_fieldNumbered? found).1⟩
      refine (literal_oneLine h named inside value).bind fun _ oneLine => ?_
      refine (assigned_oneLine named inside oneLine).bind fun _ oneLine => ?_
      exact (arguments_oneLine h named member rest).bind fun _ others =>
        .pure (List.forall_mem_cons.mpr ⟨oneLine, others⟩)

/-- So do the elements of a list. -/
theorem elements_oneLine (h : package.WellFormed) (named : package.GoNamed) {field : FieldSchema}
    (inside : package.HasField field)
    : ∀ items : List Value,
        Yields (fun parts => ∀ part ∈ parts, OneLine part) (elements .imports field items)
  | [] => .pure nofun
  | value :: rest => by
      rw [elements]
      refine (literal_oneLine h named inside value).bind fun _ oneLine => ?_
      exact (elements_oneLine h named inside rest).bind fun _ others =>
        .pure (List.forall_mem_cons.mpr ⟨oneLine_addressed oneLine, others⟩)

/-- So do the entries of a map. -/
theorem entryLiterals_oneLine (h : package.WellFormed) (named : package.GoNamed)
    {field : FieldSchema} (inside : package.HasField field)
    : ∀ entries : List (MapKey × Value),
      ∀ entry ∈ entryLiterals .imports field entries, Yields OneLine entry.2
  | [] => nofun
  | (key, value) :: rest => by
      rw [entryLiterals]
      refine List.forall_mem_cons.mpr ⟨?_, entryLiterals_oneLine h named inside rest⟩
      refine (literal_oneLine h named inside value).bind fun _ oneLine => .pure ?_
      exact ((oneLine_keyLiteral key).append (by decide)).append (oneLine_addressed oneLine)
end

/-- The literal of a message stands on one line. -/
theorem messageLiteral_oneLine (h : package.WellFormed) (named : package.GoNamed)
    {schema : MessageSchema} (member : schema ∈ package.messages) (fields : MessageValue)
    : Yields OneLine (messageLiteral .imports schema fields) := by
  refine (arguments_oneLine h named member fields).bind fun _ parts => ?_
  exact (Yields.write (named.messages schema member).oneLine).bind fun _ type =>
    .pure (oneLine_composite type parts)

end Go

end GrpcMock
