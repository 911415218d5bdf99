import GrpcMock.Json.Writer
import GrpcMock.Proto.File

/-!
A schema file as JSON, member by member.
-/

namespace GrpcMock.Proto

/-- The members for the name and the place of something declared. -/
def declared (name : String) (position : Position) : List (String × Json) :=
  [
    ("name", .string name),
    ("line", .number (.integer position.line)),
    ("column", .number (.integer position.column))
  ]

def optionalText (text : Option String) : Json :=
  (text.map Json.string).getD .null

def Field.toJson (field : Field) : Json :=
  .object
    (declared field.name field.position
      ++ [
        ("type_", optionalText field.type),
        ("label", .string field.label.name),
        ("number", .number (.integer field.number.toInt))
      ])

def Definition.toJson (definition : Definition) : Json :=
  .object
    (declared definition.name definition.position
      ++ [
        ("kind", .string definition.kind.name),
        ("fields", .array (definition.fields.map Field.toJson)),
        ("is_map_entry", .bool definition.isMapEntry)
      ])

def Rpc.toJson (rpc : Rpc) : Json :=
  .object
    (declared rpc.name rpc.position
      ++ [("input_type", .string rpc.inputType), ("output_type", .string rpc.outputType)])

def Service.toJson (service : Service) : Json :=
  .object
    (declared service.name service.position
      ++ [("methods", .array (service.methods.map Rpc.toJson))])

def File.toJson (file : File) : Json :=
  .object
    [
      ("syntax", .string file.dialect.name),
      ("package", optionalText file.package),
      ("go_package", optionalText file.goPackage),
      ("definitions", .array (file.definitions.map Definition.toJson)),
      ("services", .array (file.services.map Service.toJson))
    ]

end GrpcMock.Proto
