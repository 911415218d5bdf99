import GrpcMock.Decimal.Fixed
import GrpcMock.Go.Spelling
import GrpcMock.Value.Basic

/-!
Go expressions that construct values. Scalars need no schema; all other values are written with the
schema of their field, which gives the names of their types.
-/

namespace GrpcMock.Go

open GrpcMock.Binary (Format)
open GrpcMock.Text (quote)
open GrpcMock.Text.Quoted (hexDigit)

variable {σ : Type} (speller : Speller σ)

def mathPath : String := "math"

def protoPath : String := "google.golang.org/protobuf/proto"

def joined (parts : List String) : String :=
  ", ".intercalate parts

/-- A type with elements in braces. -/
def composite (type : String) (parts : List String) : String :=
  type ++ "\x7b" ++ joined parts ++ "\x7d"

def byteLiteral (b : UInt8) : String :=
  String.ofList ['0', 'x', hexDigit (b.toNat / 16), hexDigit (b.toNat % 16)]

/-- A value that has no literal of its own, as a single-precision number if it must be one. -/
def special (format : Format) (text : String) : String :=
  if format = .single then "float32(" ++ text ++ ")" else text

/-- A float with six places. One that is not finite is made by a call. -/
def floatLiteral (format : Format) (bits : Nat) : Rendering σ String :=
  match format.decode bits with
  | .finite negative significand exponent =>
      pure (String.ofList (Decimal.renderFixed 6 negative significand exponent))
  | .nan => do
      let name ← speller.writeFrom mathPath "NaN"
      pure (special format (name ++ "()"))
  | .infinite negative => do
      let name ← speller.writeFrom mathPath "Inf"
      pure (special format (name ++ (if negative then "(-1)" else "(1)")))

/-- The name of the member of an enum at a position. -/
def enumLiteral (field : FieldSchema) (ordinal : Int32) : Rendering σ String := do
  let enum ← required field.name "enum" field.enumType
  match enum.member? ordinal with
  | some member => speller.write member.ident
  | none => throw (.enumOutOfRange enum.fullName ordinal enum.members.length)

/-- A value as a part of another: a message is pointed to. -/
def addressed (value : Value) (text : String) : String :=
  match value with
  | .message _ => "&" ++ text
  | _ => text

/-- The function that makes a pointer to a scalar; bytes need none. -/
def pointerMaker? : Value → Option String
  | .bool _ => some "Bool"
  | .int32 _ => some "Int32"
  | .int64 _ => some "Int64"
  | .uint32 _ => some "Uint32"
  | .uint64 _ => some "Uint64"
  | .float32 _ => some "Float32"
  | .float64 _ => some "Float64"
  | .string _ => some "String"
  | _ => none

/-- The value of a field that can be unset, as a pointer where Go has one. -/
def pointed (value : Value) (text : String) : Rendering σ String :=
  match value with
  | .enum _ => pure (text ++ ".Enum()")
  | value =>
      match pointerMaker? value with
      | none => pure text
      | some maker => do
          let name ← speller.writeFrom protoPath maker
          pure (name ++ "(" ++ text ++ ")")

/-- The value of a field of a message. -/
def assigned (field : FieldSchema) (value : Value) (text : String) : Rendering σ String := do
  let text := addressed value text
  let text ← if field.hasPresence then pointed speller value text else pure text
  pure (field.goName ++ ": " ++ text)

/-- Runs renderings one after the other. -/
def inOrder : List (Rendering σ String) → Rendering σ (List String)
  | [] => pure []
  | first :: rest => do
      let first ← first
      let rest ← inOrder rest
      pure (first :: rest)

/-- The type of a list field, which cannot be one of groups. -/
def listType (field : FieldSchema) : Rendering σ String := do
  if field.kind = .group then throw (.unsupportedGroup field.name)
  let element ← typeName speller field
  pure ("[]" ++ element)

/-- The fields for the entries of a map field, the values of which cannot be groups. -/
def mapFields (field : FieldSchema) : Rendering σ (FieldSchema × FieldSchema) := do
  let (key, value) ← required field.name "map entry" field.entryFields?
  if value.kind = .group then throw (.unsupportedGroup field.name)
  pure (key, value)

def mapType (key value : FieldSchema) : Rendering σ String := do
  let key ← typeName speller key
  let value ← typeName speller value
  pure ("map[" ++ key ++ "]" ++ value)

def keyLiteral : MapKey → String
  | .bool value => if value then "true" else "false"
  | .int32 value => toString value
  | .int64 value => toString value
  | .uint32 value => toString value
  | .uint64 value => toString value
  | .string value => quote value

mutual
/-- A value of a field. -/
def literal (field : Option FieldSchema) : Value → Rendering σ String
  | .bool value => pure (if value then "true" else "false")
  | .int32 value => pure (toString value)
  | .int64 value => pure (toString value)
  | .uint32 value => pure (toString value)
  | .uint64 value => pure (toString value)
  | .float32 bits => floatLiteral speller .single bits.toNat
  | .float64 bits => floatLiteral speller .double bits.toNat
  | .string value => pure (quote value)
  | .bytes value => pure (composite "[]byte" (value.map byteLiteral))
  | .enum ordinal => do
      let field ← required "<none>" "enum" field
      enumLiteral speller field ordinal
  | .message fields => do
      let field ← required "<none>" "message" field
      let schema ← required field.name "message" field.message
      let parts ← arguments schema fields
      let type ← speller.write schema.ident
      pure (composite type parts)
  | .list items => do
      let field ← required "<none>" "list" field
      let type ← listType speller field
      let parts ← elements field items
      pure (composite type parts)
  | .map entries => do
      let field ← required "<none>" "map" field
      let (key, value) ← mapFields field
      let type ← mapType speller key value
      let parts ← inOrder ((Sorted.ofList (entryLiterals value entries)).map Prod.snd)
      pure (composite type parts)

/-- The fields of a message in the order in which they are set. -/
def arguments (schema : MessageSchema) : List (UInt32 × Value) → Rendering σ (List String)
  | [] => pure []
  | (number, value) :: rest => do
      match schema.fieldNumbered? number with
      | none => throw (.fieldNotFound number schema.fullName)
      | some field =>
          let text ← literal (some field) value
          let first ← assigned speller field value text
          let rest ← arguments schema rest
          pure (first :: rest)

def elements (field : FieldSchema) : List Value → Rendering σ (List String)
  | [] => pure []
  | value :: rest => do
      let text ← literal (some field) value
      let rest ← elements field rest
      pure (addressed value text :: rest)

/-- The renderings of the entries of a map, by key. -/
def entryLiterals (field : FieldSchema)
    : List (MapKey × Value) → List (MapKey × Rendering σ String)
  | [] => []
  | (key, value) :: rest =>
      let entry := do
        let text ← literal (some field) value
        pure (keyLiteral key ++ ": " ++ addressed value text)
      (key, entry) :: entryLiterals field rest
end

/-- A message with its type. -/
def messageLiteral (schema : MessageSchema) (fields : MessageValue) : Rendering σ String := do
  let parts ← arguments speller schema fields
  let type ← speller.write schema.ident
  pure (composite type parts)

end GrpcMock.Go
