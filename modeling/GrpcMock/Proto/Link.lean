import GrpcMock.Proto.GoPackage
import GrpcMock.Proto.Parse
import GrpcMock.Proto.Rules

/-!
The schemas that a file declares. Each name in a field becomes the schema of what it refers to, and
a definition that was linked once is not linked again.
-/

namespace GrpcMock.Proto

open GrpcMock.Text (beforeLast?)

/-- The schemas of the definitions that have been linked, by name. -/
structure Linked where
  messages : List (String × MessageSchema)
  enums : List (String × EnumSchema)

def Linked.none : Linked := ⟨[], []⟩

namespace File

def goPackageOf (file : File) : GoPackage :=
  .ofFile file.package file.goPackage

def goIdent (file : File) (name : String) : GoIdent :=
  ⟨Naming.goCamelCase name, file.goPackageOf.importPath⟩

/-- The schema of an enum. In Go its members are named after the message around it, or after the
enum itself if there is none. -/
def enumSchema (file : File) (enum : Definition) : EnumSchema :=
  let scope := Naming.goCamelCase ((beforeLast? '.' enum.name).getD enum.name)
  {
    fullName := Package.qualify file.package enum.name,
    ident := file.goIdent enum.name,
    members := enum.fields.map fun value =>
      {
        name := value.name,
        number := value.number,
        ident := ⟨scope ++ "_" ++ value.name, file.goPackageOf.importPath⟩
      }
  }

def messageSchema (file : File) (message : Definition) (fields : List FieldSchema)
    : MessageSchema :=
  {
    fullName := Package.qualify file.package message.name,
    ident := file.goIdent message.name,
    fields,
    isMapEntry := message.isMapEntry
  }

/-- Whether a field with a label can be unset. In the older dialect every field can that occurs at
most once; in the newer one it must say so. -/
def canBeUnset (file : File) : Label → Bool
  | .optional => true
  | .singular => file.dialect = .proto2
  | _ => false

/-- A field as its label marks it: repeated, or with presence if it is no message and not part of a
map entry. -/
def labelled (file : File) (inMapEntry : Bool) (label : Label) (schema : FieldSchema)
    : FieldSchema :=
  if label.isRepeated then { schema with isList := true }
  else
    let isPlain := schema.kind ≠ .message ∧ schema.kind ≠ .group
    { schema with hasPresence := !inMapEntry && isPlain && file.canBeUnset label }

/-- A field whose type is an enum. -/
def enumField (field : Field) (enum : EnumSchema) : FieldSchema :=
  { FieldSchema.single field.name field.number.toUInt32 .enum with enumType := some enum }

/-- A field whose type is a message: by its label a map, a group or a message of its own. -/
def messageField (field : Field) (message : MessageSchema) : FieldSchema :=
  let kind := if field.label.isGroup then .group else .message
  { FieldSchema.single field.name field.number.toUInt32 kind with
    isMap := field.label = .map, message := some message }

def linkEnum (file : File) (linked : Linked) (enum : Definition) : EnumSchema × Linked :=
  match linked.enums.lookup enum.name with
  | some schema => (schema, linked)
  | none =>
      let schema := file.enumSchema enum
      (schema, { linked with enums := (enum.name, schema) :: linked.enums })

mutual
/-- Links a message after everything that it refers to. `room` holds the definitions that are not
being linked already, so one outside it contains itself. -/
def linkMessage (file : File) (room : List Definition) (linked : Linked) (message : Definition)
    : Except Violation (MessageSchema × Linked) :=
  match linked.messages.lookup message.name with
  | some schema => .ok (schema, linked)
  | none =>
      if message ∈ room then do
        let (fields, linked) ← file.linkFields (room.erase message) linked message message.fields
        let schema := file.messageSchema message fields
        pure (schema, { linked with messages := (message.name, schema) :: linked.messages })
      else .error (.recursive message.name)
termination_by stepsWithin room
decreasing_by
  rename_i member
  have := stepsWithin_erase member
  omega

/-- Links what the type of a field of a message refers to. -/
def linkType (file : File) (room : List Definition) (linked : Linked) (message : Definition)
    (field : Field) : Except Violation (FieldSchema × Linked) :=
  let type := field.type.getD ""
  match file.resolve message.name type with
  | none => .error (.unknownType type field.name)
  | some (.scalar kind) => .ok (.single field.name field.number.toUInt32 kind, linked)
  | some (.definition target) =>
      match target.kind with
      | .enum =>
          let (enum, linked) := file.linkEnum linked target
          .ok (enumField field enum, linked)
      | .message => do
          let (nested, linked) ← file.linkMessage room linked target
          pure (messageField field nested, linked)
termination_by stepsWithin room + 1

def linkFields (file : File) (room : List Definition) (linked : Linked) (message : Definition)
    : List Field → Except Violation (List FieldSchema × Linked)
  | [] => .ok ([], linked)
  | field :: rest => do
      let (schema, linked) ← file.linkType room linked message field
      let (schemas, linked) ← file.linkFields room linked message rest
      pure (file.labelled message.isMapEntry field.label schema :: schemas, linked)
termination_by fields => stepsWithin room + fields.length + 2
end

/-- Links all definitions, the messages apart from the enums. -/
def linkDefinitions (file : File) (linked : Linked)
    : List Definition → Except Violation (List MessageSchema × List EnumSchema × Linked)
  | [] => .ok ([], [], linked)
  | definition :: rest =>
      match definition.kind with
      | .enum => do
          let (enum, linked) := file.linkEnum linked definition
          let (messages, enums, linked) ← file.linkDefinitions linked rest
          pure (messages, enum :: enums, linked)
      | .message => do
          let (message, linked) ← file.linkMessage file.definitions linked definition
          let (messages, enums, linked) ← file.linkDefinitions linked rest
          pure (message :: messages, enums, linked)

/-- The message that a method takes or returns. -/
def linkMethodType (file : File) (linked : Linked) (type : String)
    : Except Violation (MessageSchema × Linked) :=
  match file.resolveMessage? type with
  | some message => file.linkMessage file.definitions linked message
  | none => .error (.notMessage type)

def linkMethods (file : File) (linked : Linked)
    : List Rpc → Except Violation (List MethodSchema × Linked)
  | [] => .ok ([], linked)
  | method :: rest => do
      let (input, linked) ← file.linkMethodType linked method.inputType
      let (output, linked) ← file.linkMethodType linked method.outputType
      let (methods, linked) ← file.linkMethods linked rest
      let goName := Naming.goCamelCase method.name
      pure (⟨method.name, goName, input, output⟩ :: methods, linked)

def linkServices (file : File) (linked : Linked)
    : List Service → Except Violation (List ServiceSchema)
  | [] => .ok []
  | service :: rest => do
      let (methods, linked) ← file.linkMethods linked service.methods
      let services ← file.linkServices linked rest
      let fullName := Package.qualify file.package service.name
      pure (⟨service.name, fullName, Naming.goCamelCase service.name, methods⟩ :: services)

/-- The schemas of everything that a file declares. -/
def link (file : File) : Except Violation Package := do
  let (messages, enums, linked) ← file.linkDefinitions .none file.definitions
  let services ← file.linkServices linked file.services
  pure
    {
      name := file.package,
      goPackage := file.goPackageOf,
      messages,
      enums,
      services
    }

end File

end GrpcMock.Proto
