import GrpcMock.Proofs.Proto.Written

/-!
Sources: schema files as trees, before they are written as tokens. A tree knows the tokens that
write it and the file that they stand for; the two are defined side by side, without any reading.
-/

namespace GrpcMock.Proto

open GrpcMock.Decimal (Range)
open GrpcMock.Text (unquote?)

-----------------------------------------------------------------------------------------
-- Pieces
-----------------------------------------------------------------------------------------

/-- What a source asks of a token: its text, or that it is the very token that the source holds. -/
inductive Piece where
  | word (text : String)
  | token (own : Token)

def Piece.Fits : Piece → Token → Prop
  | .word text, found => found.text = text
  | .token own, found => found = own

/-- The token that a piece asks for, with no place unless the piece has one. -/
def Piece.plain : Piece → Token
  | .word text => ⟨text, .start⟩
  | .token own => own

/-- The token of a name without dots. -/
abbrev Identifier := { token : Token // isIdentifier token.text }

/-- The token of a name that may have dots. -/
abbrev TypeName := { token : Token // isTypeName token.text }

/-- The words that begin something else than a field where a type could stand. -/
def itemWords : List String :=
  ["message", "enum", "option", "reserved", "extensions", "oneof", "extend", "map", "repeated",
    "optional", "required", "group"]

/-- The type of a field. -/
abbrev FieldType := { token : Token // isTypeName token.text ∧ token.text ∉ itemWords }

/-- The type that a method takes or returns. -/
abbrev MethodType := { token : Token // isTypeName token.text ∧ token.text ≠ "stream" }

/-- The words that begin a statement of an enum that is passed over. -/
def statementWords : List String :=
  ["option", "reserved", "extensions"]

/-- The name of a value of an enum. -/
abbrev ValueName := { token : Token // isIdentifier token.text ∧ token.text ∉ statementWords }

/-- An integer of 32 bits, in any way of writing it. -/
structure Numeral where
  text : String
  value : Int32
  written : isInteger text
  reads : Range.int32.read? text.toList = some value.toInt

/-- A string, in any way of writing it. -/
structure Quoted where
  text : String
  value : String
  written : isString text
  reads : unquote? text = some value

-----------------------------------------------------------------------------------------
-- Enums and services
-----------------------------------------------------------------------------------------

namespace Source

structure Value where
  name : ValueName
  number : Numeral

namespace Value

def pieces (value : Value) : List Piece :=
  [.token value.name, .word "=", .word value.number.text, .word ";"]

def field (value : Value) : Field :=
  ⟨value.name.1.text, value.name.1.position, none, .singular, value.number.value⟩

end Value

structure Enum where
  name : Identifier
  values : List Value

namespace Enum

/-- The pieces of an enum after its keyword. -/
def pieces (enum : Enum) : List Piece :=
  .token enum.name :: .word "\x7b" :: (enum.values.flatMap Value.pieces ++ [.word "\x7d"])

def definition (scope : String) (enum : Enum) : Definition :=
  ⟨inScope scope enum.name.1.text, enum.name.1.position, .enum, enum.values.map Value.field, false⟩

end Enum

/-- The pieces of a type in parentheses. -/
def typePieces (type : MethodType) : List Piece :=
  [.word "(", .token type, .word ")"]

structure Method where
  name : Identifier
  input : MethodType
  output : MethodType

namespace Method

def pieces (method : Method) : List Piece :=
  .word "rpc" :: .token method.name
    :: (typePieces method.input
      ++ .word "returns" :: (typePieces method.output ++ [.word ";"]))

def rpc (method : Method) : Rpc :=
  ⟨method.name.1.text, method.name.1.position, method.input.1.text, method.output.1.text⟩

end Method

-----------------------------------------------------------------------------------------
-- Messages
-----------------------------------------------------------------------------------------

/-- The word in front of a field. -/
inductive Marking where
  | none
  | optional
  | required
  | repeated
  deriving DecidableEq

namespace Marking

def pieces : Marking → List Piece
  | .none => []
  | .optional => [.word "optional"]
  | .required => [.word "required"]
  | .repeated => [.word "repeated"]

def label : Marking → Label
  | .none => .singular
  | .optional | .required => .optional
  | .repeated => .repeated

end Marking

/-- What can stand in a message, in any order. -/
inductive Item where
  | field (marking : Marking) (type : FieldType) (name : Identifier) (number : Numeral)
  | map (key value : TypeName) (name : Identifier) (number : Numeral)
  | group (marking : Marking) (name : Identifier) (number : Numeral) (items : List Item)
  | message (name : Identifier) (items : List Item)
  | enum (inner : Enum)

mutual
def Item.pieces : Item → List Piece
  | .field marking type name number =>
      marking.pieces
        ++ [.token type, .token name, .word "=", .word number.text, .word ";"]
  | .map key value name number =>
      [
        .word "map", .word "<", .token key, .word ",", .token value, .word ">", .token name,
        .word "=", .word number.text, .word ";"
      ]
  | .group marking name number items =>
      marking.pieces
        ++ [.word "group", .token name, .word "=", .word number.text, .word "\x7b"]
        ++ bodyPieces items
  | .message name items =>
      .word "message" :: .token name :: .word "\x7b" :: bodyPieces items
  | .enum inner => .word "enum" :: inner.pieces

/-- The pieces of the items of a message, with the closing brace. -/
def bodyPieces : List Item → List Piece
  | [] => [.word "\x7d"]
  | item :: rest => item.pieces ++ bodyPieces rest
end

/-- The fields that an item is, in a message whose name is the scope. -/
def Item.fields (scope : String) : Item → List Field
  | .field marking type name number =>
      [⟨name.1.text, name.1.position, some type.1.text, marking.label, number.value⟩]
  | .map _ _ name number => [.ofMap scope name.1.text name.1.position number.value]
  | .group marking name number _ => [.ofGroup scope name.1 marking.label.isRepeated number.value]
  | .message .. | .enum _ => []

mutual
/-- The definitions that an item is: the one for the entries of a map, an enum, or a message and
after it what is nested in it. -/
def Item.definitions (scope : String) : Item → List Definition
  | .field .. => []
  | .map key value name _ =>
      [mapEntry (entryName scope name.1.text) name.1.position key.1 value.1]
  | .group _ name _ items | .message name items =>
      let path := inScope scope name.1.text
      ⟨path, name.1.position, .message, items.flatMap (Item.fields path), false⟩
        :: bodyDefinitions path items
  | .enum inner => [inner.definition scope]

def bodyDefinitions (scope : String) : List Item → List Definition
  | [] => []
  | item :: rest => item.definitions scope ++ bodyDefinitions scope rest
end

-----------------------------------------------------------------------------------------
-- Files
-----------------------------------------------------------------------------------------

/-- The line that names the dialect. -/
structure Header where
  dialect : Dialect
  name : Quoted
  names : name.value = dialect.name

def Header.pieces (header : Header) : List Piece :=
  [.word "syntax", .word "=", .word header.name.text, .word ";"]

structure Service where
  name : Identifier
  methods : List Method

namespace Service

/-- The pieces of a service after its keyword. -/
def pieces (service : Service) : List Piece :=
  .token service.name :: .word "\x7b" :: (service.methods.flatMap Method.pieces ++ [.word "\x7d"])

def toService (service : Service) : Proto.Service :=
  ⟨service.name.1.text, service.name.1.position, service.methods.map Method.rpc⟩

end Service

/-- What can stand in a file, in any order. -/
inductive Part where
  | package (name : TypeName)
  | goPackage (value : Quoted)
  | message (name : Identifier) (items : List Item)
  | enum (inner : Enum)
  | service (inner : Service)

namespace Part

/-- The word that a part begins with. -/
def keyword : Part → String
  | .package _ => "package"
  | .goPackage _ => "option"
  | .message .. => "message"
  | .enum _ => "enum"
  | .service _ => "service"

/-- The pieces of a part after its keyword. -/
def operands : Part → List Piece
  | .package name => [.token name, .word ";"]
  | .goPackage value => [.word "go_package", .word "=", .word value.text, .word ";"]
  | .message name items => .token name :: .word "\x7b" :: bodyPieces items
  | .enum inner => inner.pieces
  | .service inner => inner.pieces

def pieces (part : Part) : List Piece :=
  .word part.keyword :: part.operands

def package? : Part → Option String
  | .package name => some name.1.text
  | _ => none

def goPackage? : Part → Option String
  | .goPackage value => some value.value
  | _ => none

def definitions : Part → List Definition
  | .message name items => (Item.message name items).definitions ""
  | .enum inner => (Item.enum inner).definitions ""
  | _ => []

def service? : Part → Option Proto.Service
  | .service inner => some inner.toService
  | _ => none

end Part

end Source

/-- A file as a tree. -/
structure Source where
  header : Option Source.Header
  parts : List Source.Part
  /-- The package is named at most once. -/
  onePackage : (parts.filterMap Source.Part.package?).length ≤ 1

namespace Source

/-- The pieces of a source, with the empty token at the end. -/
def pieces (source : Source) : List Piece :=
  (source.header.map Header.pieces).getD [] ++ source.parts.flatMap Part.pieces ++ [.word ""]

/-- The file that a source stands for. -/
def file (source : Source) : File :=
  {
    dialect := (source.header.map Header.dialect).getD .proto2,
    package := (source.parts.filterMap Part.package?).head?,
    goPackage := (source.parts.filterMap Part.goPackage?).getLast?,
    definitions := source.parts.flatMap Part.definitions,
    services := source.parts.filterMap Part.service?
  }

end Source

end GrpcMock.Proto
