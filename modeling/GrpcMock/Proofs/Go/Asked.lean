import GrpcMock.Go.Literal
import GrpcMock.Proofs.Go.Imports
import GrpcMock.Proofs.Proto.Compile
import GrpcMock.Proofs.Schema.Conforms

/-!
What literals ask of the imports of a file. They mention what their schema declares and what comes
from two packages that generated code relies on, and nothing else, whether they succeed or fail.
-/

namespace GrpcMock

/-- A package that declares all its messages, enums and members of enums in its own Go package. -/
structure Package.Home (package : Package) : Prop where
  messages
    : ∀ message ∈ package.messages, message.ident.importPath = package.goPackage.importPath
  enums : ∀ enum ∈ package.enums, enum.ident.importPath = package.goPackage.importPath
  members
    : ∀ enum ∈ package.enums,
      ∀ member ∈ enum.members, member.ident.importPath = package.goPackage.importPath

/-- What is declared in a text that compiles belongs to the Go package of its file. -/
theorem Proto.compile_home {text : String} {package : Package} (h : compile text = .ok package)
    : package.Home := by
  obtain ⟨file, _, _, declares⟩ := compile_declares h
  have path := congrArg GoPackage.importPath declares.goPackage
  refine ⟨fun message member => ?message, fun enum member => ?enum,
    fun enum member value listed => ?value⟩
  case message =>
    obtain ⟨definition, -, described⟩ := declares.messages.exists_left member
    cases described
    exact path.symm
  case enum =>
    rw [declares.enums] at member
    obtain ⟨definition, -, rfl⟩ := List.mem_map.mp member
    exact path.symm
  case value =>
    rw [declares.enums] at member
    obtain ⟨definition, -, rfl⟩ := List.mem_map.mp member
    obtain ⟨field, -, rfl⟩ := List.mem_map.mp listed
    exact path.symm

namespace Go

variable {α β : Type} {allowed : String → Prop}

/-- Calls in a row can be made in two parts. -/
theorem Imports.after_append (imports : Imports) (calls more : List Call)
    : imports.after (calls ++ more) = (imports.after calls).after more :=
  List.foldl_append

-----------------------------------------------------------------------------------------
-- Renderings
-----------------------------------------------------------------------------------------

/-- A rendering mentions identifiers of allowed packages one after the other and does nothing else
to the imports. -/
def Asks (allowed : String → Prop) (rendering : Rendering Imports α) : Prop :=
  ∀ before,
    ∃ idents : List GoIdent,
      (∀ ident ∈ idents, allowed ident.importPath)
      ∧ (rendering.run.run before).2 = before.after (idents.map .spell)

namespace Asks

/-- What only yields something asks for nothing. -/
theorem pure {value : α} : Asks allowed (pure value) :=
  fun _ => ⟨[], nofun, rfl⟩

/-- Neither does what fails. -/
theorem throw {failure : Failure} : Asks allowed (throw failure : Rendering Imports α) :=
  fun _ => ⟨[], nofun, rfl⟩

/-- Whoever writes an identifier asks for its package. -/
theorem write {ident : GoIdent} (h : allowed ident.importPath)
    : Asks allowed (Speller.imports.write ident) :=
  fun _ => ⟨[ident], List.forall_mem_singleton.mpr h, rfl⟩

/-- One rendering after another asks for what both of them do. -/
theorem bind {first : Rendering Imports α} {next : α → Rendering Imports β}
    (hf : Asks allowed first) (hn : ∀ value, Asks allowed (next value))
    : Asks allowed (first >>= next) := by
  intro before
  obtain ⟨idents, each, run⟩ := hf before
  rw [ExceptT.run_bind, StateT.run_bind]
  rcases result : first.run.run before with ⟨failure | value, between⟩
  · rw [result] at run
    exact ⟨idents, each, run⟩
  · obtain ⟨others, eachOther, runOther⟩ := hn value between
    rw [result] at run
    refine ⟨idents ++ others, List.forall_mem_append.mpr ⟨each, eachOther⟩, ?_⟩
    rw [List.map_append, Imports.after_append, ← run]
    exact runOther

/-- Nothing follows a failure. -/
theorem throw_bind {failure : Failure} {next : α → Rendering Imports β}
    : Asks allowed (MonadExcept.throw failure >>= next) :=
  throw

/-- A part of a schema that is there is given to what follows. -/
theorem required {field expected : String} {part : Option α} {next : α → Rendering Imports β}
    (hn : ∀ value, part = some value → Asks allowed (next value))
    : Asks allowed (required field expected part >>= next) := by
  cases part with
  | none => exact throw_bind
  | some value => exact hn value rfl

/-- The fields for the entries of a map are given to what follows. -/
theorem mapFields {field : FieldSchema} {next : FieldSchema × FieldSchema → Rendering Imports β}
    (hn : ∀ fields, field.entryFields? = some fields → Asks allowed (next fields))
    : Asks allowed (mapFields field >>= next) := by
  unfold Go.mapFields
  simp only [bind_assoc]
  refine .required fun fields found => ?_
  split
  · exact throw_bind
  · exact hn fields found

/-- The packages that had a name before have the same name after. -/
theorem isExtension {rendering : Rendering Imports α} (h : Asks allowed rendering)
    (before : Imports)
    : before.Extends (rendering.run.run before).2 := by
  obtain ⟨idents, -, run⟩ := h before
  rw [run]
  exact before.extends_after _

end Asks

/-- Renderings in a row ask for what each of them asks for, up to the first that fails. -/
theorem inOrder_asks {renderings : List (Rendering Imports String)}
    (each : ∀ rendering ∈ renderings, Asks allowed rendering)
    : Asks allowed (inOrder renderings) := by
  induction renderings with
  | nil => exact .pure
  | cons first rest ih =>
      obtain ⟨head, tail⟩ := List.forall_mem_cons.mp each
      exact head.bind fun _ => (ih tail).bind fun _ => .pure

-----------------------------------------------------------------------------------------
-- Types and fields
-----------------------------------------------------------------------------------------

/-- The packages that the literals of a schema may mention. -/
structure AllowsLiterals (allowed : String → Prop) (package : Package) : Prop where
  own : allowed package.goPackage.importPath
  math : allowed mathPath
  proto : allowed protoPath

variable {package : Package}

section Types

variable (h : package.WellFormed) (home : package.Home) (allows : AllowsLiterals allowed package)
  {field : FieldSchema}

include allows

/-- The literal of a float or double asks for the package of mathematics at most. -/
theorem floatLiteral_asks {format : Binary.Format} {bits : Nat}
    : Asks allowed (floatLiteral .imports format bits) := by
  unfold floatLiteral
  split
  · exact .pure
  · exact .bind (.write allows.math) fun _ => .pure
  · exact .bind (.write allows.math) fun _ => .pure

/-- What a field is set to asks for the package with pointers at most. -/
theorem assigned_asks {value : Value} {text : String}
    : Asks allowed (assigned .imports field value text) := by
  have pointed {text : String} : Asks allowed (pointed .imports value text) := by
    unfold Go.pointed
    split
    · exact .pure
    split
    · exact .pure
    · exact .bind (.write allows.proto) fun _ => .pure
  unfold assigned
  dsimp only
  split
  · exact pointed.bind fun _ => .pure
  · exact .pure

include home

/-- The name of a message asks for the package of its schema. -/
theorem message_asks {schema : MessageSchema} (member : schema ∈ package.messages)
    : Asks allowed (Speller.imports.write schema.ident) := by
  apply Asks.write
  rw [home.messages schema member]
  exact allows.own

include h

/-- So does the type of a field, if it is not scalar. -/
theorem typeName_asks (inside : package.HasField field)
    : Asks allowed (typeName .imports field) := by
  have message {schema : MessageSchema} (found : field.message = some schema)
      : Asks allowed (Speller.imports.write schema.ident) :=
    message_asks home allows (inside.message_mem h found)
  unfold typeName
  split
  · refine .required fun enum found => .write ?_
    rw [home.enums enum (inside.enum_mem h found)]
    exact allows.own
  · exact .required fun _ found => (message found).bind fun _ => .pure
  · exact .required fun _ found => (message found).bind fun _ => .pure
  · exact .pure

/-- So does the literal of an enum. -/
theorem enumLiteral_asks (inside : package.HasField field) {ordinal : Int32}
    : Asks allowed (enumLiteral .imports field ordinal) := by
  refine .required fun enum found => ?_
  split
  · rename_i member listed
    apply Asks.write
    rw [home.members enum (inside.enum_mem h found) member (EnumSchema.mem_of_member? listed)]
    exact allows.own
  · exact .throw

/-- The type of a list asks for what its elements do. -/
theorem listType_asks (inside : package.HasField field)
    : Asks allowed (listType .imports field) := by
  unfold listType
  split
  · exact .throw_bind
  · exact (typeName_asks h home allows inside).bind fun _ => .pure

/-- The type of a map asks for what its keys and values do. -/
theorem mapType_asks {key value : FieldSchema} (keyInside : package.HasField key)
    (valueInside : package.HasField value)
    : Asks allowed (mapType .imports key value) :=
  (typeName_asks h home allows keyInside).bind fun _ =>
    (typeName_asks h home allows valueInside).bind fun _ => .pure

end Types

-----------------------------------------------------------------------------------------
-- Literals
-----------------------------------------------------------------------------------------

mutual
/-- The literal of any value of a field mentions allowed packages only, by induction on the value.
-/
theorem literal_asks (h : package.WellFormed) (home : package.Home)
    (allows : AllowsLiterals allowed package) {field : FieldSchema}
    (inside : package.HasField field)
    : ∀ value : Value, Asks allowed (literal .imports (some field) value)
  | .bool _ => .pure
  | .int32 _ => .pure
  | .int64 _ => .pure
  | .uint32 _ => .pure
  | .uint64 _ => .pure
  | .float32 _ => floatLiteral_asks allows
  | .float64 _ => floatLiteral_asks allows
  | .string _ => .pure
  | .bytes _ => .pure
  | .enum ordinal => by
      rw [literal]
      refine .required fun _ same => ?_
      cases same
      exact enumLiteral_asks h home allows inside
  | .message fields => by
      rw [literal]
      refine .required fun _ same => .required fun schema found => ?_
      cases same
      have member := inside.message_mem h found
      refine (arguments_asks h home allows member fields).bind fun _ => ?_
      exact (message_asks home allows member).bind fun _ => .pure
  | .list items => by
      rw [literal]
      refine .required fun _ same => ?_
      cases same
      refine (listType_asks h home allows inside).bind fun _ => ?_
      exact (elements_asks h home allows inside items).bind fun _ => .pure
  | .map entries => by
      rw [literal]
      refine .required fun _ same => ?_
      cases same
      refine .mapFields fun fields found => ?_
      obtain ⟨keyInside, valueInside⟩ := inside.entry h found
      refine (mapType_asks h home allows keyInside valueInside).bind fun _ => ?_
      refine (inOrder_asks fun rendering member => ?_).bind fun _ => .pure
      obtain ⟨entry, sorted, rfl⟩ := List.mem_map.mp member
      exact entryLiterals_asks h home allows valueInside entries entry (Sorted.mem_ofList sorted)

/-- The fields of a message ask for allowed packages only. -/
theorem arguments_asks (h : package.WellFormed) (home : package.Home)
    (allows : AllowsLiterals allowed package) {schema : MessageSchema}
    (member : schema ∈ package.messages)
    : ∀ fields : List (UInt32 × Value), Asks allowed (arguments .imports schema fields)
  | [] => .pure
  | (number, value) :: rest => by
      rw [arguments]
      split
      · exact .throw
      rename_i field found
      have inside : package.HasField field :=
        ⟨schema, member, (MessageSchema.mem_of_fieldNumbered? found).1⟩
      refine (literal_asks h home allows inside value).bind fun _ => ?_
      refine (assigned_asks allows).bind fun _ => ?_
      exact (arguments_asks h home allows member rest).bind fun _ => .pure

/-- So do the elements of a list. -/
theorem elements_asks (h : package.WellFormed) (home : package.Home)
    (allows : AllowsLiterals allowed package) {field : FieldSchema}
    (inside : package.HasField field)
    : ∀ items : List Value, Asks allowed (elements .imports field items)
  | [] => .pure
  | value :: rest => by
      rw [elements]
      refine (literal_asks h home allows inside value).bind fun _ => ?_
      exact (elements_asks h home allows inside rest).bind fun _ => .pure

/-- So do the entries of a map. -/
theorem entryLiterals_asks (h : package.WellFormed) (home : package.Home)
    (allows : AllowsLiterals allowed package) {field : FieldSchema}
    (inside : package.HasField field)
    : ∀ entries : List (MapKey × Value),
      ∀ entry ∈ entryLiterals .imports field entries, Asks allowed entry.2
  | [] => nofun
  | (key, value) :: rest => by
      rw [entryLiterals]
      refine List.forall_mem_cons.mpr ⟨?_, entryLiterals_asks h home allows inside rest⟩
      exact (literal_asks h home allows inside value).bind fun _ => .pure
end

/-- So does the literal of a message, as one value of that type. -/
theorem messageLiteral_asks (h : package.WellFormed) (home : package.Home)
    (allows : AllowsLiterals allowed package) {schema : MessageSchema}
    (member : schema ∈ package.messages) (fields : MessageValue)
    : Asks allowed (messageLiteral .imports schema fields) :=
  (arguments_asks h home allows member fields).bind fun _ =>
    (message_asks home allows member).bind fun _ => .pure

end Go

end GrpcMock
