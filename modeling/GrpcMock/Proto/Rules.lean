import GrpcMock.Proto.Nesting

/-!
The rules that a schema file must keep. They are checked in a fixed order and the first violation is
the one that is reported: first the names of all types, then each definition, then the services, and
last that no message contains itself.
-/

namespace GrpcMock.Proto

/-- Fails with a violation where a condition holds. -/
def refuse (condition : Prop) [Decidable condition] (violation : Violation)
    : Except Violation Unit :=
  if condition then .error violation else .ok ()

/-- Checks each item of a list against those before it. -/
def checkEach {α : Type} (check : List α → α → Except Violation Unit) (before : List α)
    : List α → Except Violation Unit
  | [] => .ok ()
  | item :: rest => do
      check before item
      checkEach check (item :: before) rest

def checkTypeName (before : List Definition) (definition : Definition)
    : Except Violation Unit :=
  refuse (definition.name ∈ before.map (·.name)) (.typeTwice definition.name)

def checkValue (enum : Definition) (before : List Field) (value : Field)
    : Except Violation Unit :=
  refuse (value.name ∈ before.map (·.name)) (.valueTwice value.name enum.name)

def checkEnum (file : File) (enum : Definition) : Except Violation Unit := do
  refuse (enum.fields = []) (.emptyEnum enum.name)
  refuse (file.dialect = .proto3 ∧ enum.fields.head?.any (·.number ≠ 0)) (.firstNotZero enum.name)
  checkEach (checkValue enum) [] enum.fields

def checkNumber (before : List Field) (field : Field) : Except Violation Unit := do
  refuse (field.number ∈ before.map (·.number)) (.numberTwice field.name)
  refuse (field.number ≤ 0) (.numberNotPositive field.name)
  refuse (greatestNumber < field.number) (.numberTooLarge field.name)
  refuse (19000 ≤ field.number ∧ field.number ≤ 19999) (.numberReserved field.name)

def checkType (file : File) (message : Definition) (field : Field) (type : String)
    : Except Violation Unit :=
  match file.resolve message.name type with
  | none => .error (.unknownType type field.name)
  | some target => do
      refuse (message.isMapEntry ∧ field.number = 1 ∧ ¬target.isMapKey) (.notMapKey type)
      refuse (target.isMapEntry ∧ field.label ≠ .map) (.entryReferenced type field.name)

def checkField (file : File) (message : Definition) (before : List Field) (field : Field)
    : Except Violation Unit := do
  refuse (field.name ∈ before.map (·.name)) (.fieldTwice field.name message.name)
  checkNumber before field
  refuse (field.label.isGroup ∧ file.dialect = .proto3) (.groupRefused field.name)
  match field.type with
  | none => pure ()
  | some type => checkType file message field type

def checkDefinition (file : File) (definition : Definition) : Except Violation Unit :=
  match definition.kind with
  | .enum => checkEnum file definition
  | .message => checkEach (checkField file definition) [] definition.fields

def checkMethodType (file : File) (method : Rpc) (type : String) : Except Violation Unit :=
  refuse (file.resolveMessage? type = none) (.methodTypeNotMessage type method.name)

def checkMethod (file : File) (service : Service) (before : List Rpc) (method : Rpc)
    : Except Violation Unit := do
  refuse (method.name ∈ before.map (·.name)) (.methodTwice method.name service.name)
  checkMethodType file method method.inputType
  checkMethodType file method method.outputType

def checkService (file : File) (before : List Service) (service : Service)
    : Except Violation Unit := do
  refuse (service.name ∈ before.map (·.name) ∨ service.name ∈ file.definitions.map (·.name))
    (.nameTwice service.name)
  checkEach (checkMethod file service) [] service.methods

/-- Checks all rules except the one on nesting. -/
def File.checkDeclarations (file : File) : Except Violation Unit := do
  checkEach checkTypeName [] file.definitions
  checkEach (fun _ => checkDefinition file) [] file.definitions
  checkEach (checkService file) [] file.services

/-- Checks all rules. -/
def File.check (file : File) : Except Violation Unit := do
  file.checkDeclarations
  file.checkNesting

end GrpcMock.Proto
