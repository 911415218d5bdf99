import GrpcMock.Schema.Basic

/-!
What one schema file declares: messages, enums and services, each known by a full name that begins
with the name of the package.
-/

namespace GrpcMock

structure MethodSchema where
  name : String
  goName : String
  input : MessageSchema
  output : MessageSchema
  deriving DecidableEq, Repr

structure ServiceSchema where
  name : String
  fullName : String
  goName : String
  methods : List MethodSchema
  deriving DecidableEq, Repr

def ServiceSchema.method? (service : ServiceSchema) (name : String) : Option MethodSchema :=
  service.methods.find? fun method => method.name == name

/-- The Go package that holds the code generated from a schema. -/
structure GoPackage where
  importPath : String
  name : String
  deriving DecidableEq, Repr

structure Package where
  name : Option String
  goPackage : GoPackage
  messages : List MessageSchema
  enums : List EnumSchema
  services : List ServiceSchema
  deriving DecidableEq, Repr

namespace Package

/-- A name with the package in front of it. -/
def qualify (package : Option String) (name : String) : String :=
  match package with
  | some package => package ++ "." ++ name
  | none => name

/-- The first message with a name, which may be full or relative to the package. -/
def message? (package : Package) (name : String) : Option MessageSchema :=
  let qualified := qualify package.name name
  package.messages.find? fun message => message.fullName == name || message.fullName == qualified

/-- The first service with a name, which may be full or not. -/
def service? (package : Package) (name : String) : Option ServiceSchema :=
  package.services.find? fun service => service.name == name || service.fullName == name

end Package

end GrpcMock
