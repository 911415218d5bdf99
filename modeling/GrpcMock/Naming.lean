import GrpcMock.Text.Bytes
import GrpcMock.Text.Upper

/-!
Names that are derived from other names: the JSON name of a field, and the names that the Go code
generated from a schema gives to its messages, fields, methods and packages.
-/

namespace GrpcMock.Naming

open GrpcMock.Text (upper utf8Bytes)

/-- A name with its first letter in upper case, which makes it visible outside its Go package. -/
def exported (name : String) : String :=
  match name.toList with
  | [] => ""
  | first :: rest => String.ofList (upper first ++ rest)

def startsLower (text : List Char) : Bool :=
  text.head?.any Char.isLower

/-- Camel case over single characters. `boundary` tells that nothing or a dot came before, `inWord`
that a capital or a copied letter did, so that lower-case letters go on with its word. -/
def camelCase (boundary inWord : Bool) : List Char → List Char
  | [] => []
  | c :: rest =>
      if inWord && c.isLower then c :: camelCase false true rest
      else if c = '.' then
        if startsLower rest then camelCase true false rest else '_' :: camelCase true false rest
      else if c = '_' && boundary then 'X' :: camelCase false false rest
      else if c = '_' && startsLower rest then camelCase false false rest
      else if c.isDigit then c :: camelCase false false rest
      else c.toUpper :: camelCase false true rest

/-- The Go name of a protobuf name. An underscore or a dot before a lower-case letter goes and the
letter becomes a capital; other dots become underscores; an underscore that leads becomes `X`. The
name is taken byte by byte, and a byte beyond ASCII stands for the character of its number. -/
def goCamelCase (name : String) : String :=
  let units := (utf8Bytes name.toList).map fun byte => Char.ofNat byte.toNat
  String.ofList (camelCase true false units)

/-- Drops underscores; what follows one is put in upper case. -/
def lowerCamel (afterUnderscore : Bool) : List Char → List Char
  | [] => []
  | c :: rest =>
      if c = '_' then lowerCamel true rest
      else if afterUnderscore then upper c ++ lowerCamel false rest
      else c :: lowerCamel false rest

/-- The JSON name of a field. -/
def jsonName (name : String) : String :=
  String.ofList (lowerCamel false name.toList)

/-- A name with all that Go does not allow in the name of a package replaced by underscores. -/
def goPackageName (name : String) : String :=
  match name.toList.map fun c => if c.isAlphanum || c = '_' then c else '_' with
  | [] => "main"
  | first :: rest =>
      String.ofList (if first.isDigit then '_' :: first :: rest else first :: rest)

end GrpcMock.Naming
