import GrpcMock.Go.Ident
import GrpcMock.Naming
import GrpcMock.Schema.Kind

/-!
The schema of a message: its fields with their kinds, and the schemas of the messages and enums that
the fields refer to. A schema is a finite tree, so what is done with a value can follow its schema.
-/

namespace GrpcMock

structure EnumMember where
  name : String
  number : Int32
  ident : GoIdent
  deriving DecidableEq, Repr, Inhabited

/-- An enum; its values are positions in the list of its members. -/
structure EnumSchema where
  fullName : String
  ident : GoIdent
  members : List EnumMember
  deriving DecidableEq, Repr, Inhabited

/-- A field whose messages are described by `μ`. -/
structure FieldOf (μ : Type) where
  name : String
  jsonName : String
  goName : String
  number : UInt32
  kind : FieldKind
  isList : Bool
  isMap : Bool
  /-- The field can be unset, so it is a pointer in Go. -/
  hasPresence : Bool
  /-- The schema of a message or group, and of the entries of a map. -/
  message : Option μ
  enumType : Option EnumSchema
  deriving DecidableEq, Repr

structure MessageSchema where
  fullName : String
  ident : GoIdent
  fields : List (FieldOf MessageSchema)
  /-- The message stands for the entries of a map field. -/
  isMapEntry : Bool
  deriving Repr

abbrev FieldSchema := FieldOf MessageSchema

mutual
/-- Compares two schemas as trees. -/
def MessageSchema.decEq : (schema other : MessageSchema) → Decidable (schema = other)
  | ⟨fullName, ident, fields, isMapEntry⟩, ⟨fullName', ident', fields', isMapEntry'⟩ =>
      have := FieldSchema.decEqList fields fields'
      decidable_of_iff
        (fullName = fullName' ∧ ident = ident' ∧ fields = fields' ∧ isMapEntry = isMapEntry')
        (MessageSchema.mk.injEq ..).to_iff.symm

def MessageSchema.decEqOption : (schema other : Option MessageSchema) → Decidable (schema = other)
  | none, none => isTrue rfl
  | none, some _ => isFalse nofun
  | some _, none => isFalse nofun
  | some schema, some other =>
      have := schema.decEq other
      decidable_of_iff (schema = other) (Option.some.injEq ..).to_iff.symm

def FieldSchema.decEq : (field other : FieldOf MessageSchema) → Decidable (field = other)
  | ⟨_, _, _, _, _, _, _, _, message, _⟩, ⟨_, _, _, _, _, _, _, _, message', _⟩ =>
      have := MessageSchema.decEqOption message message'
      decidable_of_iff _ (FieldOf.mk.injEq ..).to_iff.symm

def FieldSchema.decEqList : (fields others : List (FieldOf MessageSchema)) →
    Decidable (fields = others)
  | [], [] => isTrue rfl
  | [], _ :: _ => isFalse nofun
  | _ :: _, [] => isFalse nofun
  | field :: fields, other :: others =>
      have := FieldSchema.decEq field other
      have := FieldSchema.decEqList fields others
      decidable_of_iff (field = other ∧ fields = others) (List.cons.injEq ..).to_iff.symm
end

instance : DecidableEq MessageSchema := MessageSchema.decEq

namespace EnumSchema

/-- An enum of its own, with members numbered from zero and named after the enum. -/
def ofNames (fullName : String) (ident : GoIdent) (names : List String) : EnumSchema :=
  {
    fullName,
    ident,
    members := names.zipIdx.map fun (name, index) =>
      {
        name,
        number := Int32.ofNat index,
        ident := ⟨ident.name ++ "_" ++ name, ident.importPath⟩
      }
  }

def member? (schema : EnumSchema) (ordinal : Int32) : Option EnumMember :=
  if ordinal < 0 then none else schema.members[ordinal.toInt.toNat]?

/-- The position of the first member with a name. -/
def ordinalOfName? (schema : EnumSchema) (name : String) : Option Nat :=
  schema.members.findIdx? fun member => member.name == name

/-- The position of the first member with a number. -/
def ordinalOfNumber? (schema : EnumSchema) (number : Int32) : Option Nat :=
  schema.members.findIdx? fun member => member.number == number

end EnumSchema

namespace FieldSchema

/-- A field that occurs once, with no presence and no schema of a message or enum. -/
def single (name : String) (number : UInt32) (kind : FieldKind) : FieldSchema :=
  {
    name,
    jsonName := Naming.jsonName name,
    goName := Naming.goCamelCase name,
    number,
    kind,
    isList := false,
    isMap := false,
    hasPresence := false,
    message := none,
    enumType := none
  }

/-- The fields for the key and the value of a map: the first two of its entry message. -/
def entryFields? (field : FieldSchema) : Option (FieldSchema × FieldSchema) :=
  match field.message with
  | some ⟨_, _, key :: value :: _, _⟩ => some (key, value)
  | _ => none

end FieldSchema

namespace MessageSchema

/-- The entry message of a map. Its value field is the second one and is never unset. -/
def mapEntry (fullName : String) (ident : GoIdent) (key : FieldKind) (value : FieldSchema)
    : MessageSchema :=
  {
    fullName,
    ident,
    fields :=
      [
        FieldSchema.single "key" 1 key,
        { value with
          name := "value", jsonName := "value", goName := "Value", number := 2,
          hasPresence := false }
      ],
    isMapEntry := true
  }

/-- The first field with a name, by either of its names. -/
def fieldNamed? (schema : MessageSchema) (name : String) : Option FieldSchema :=
  schema.fields.find? fun field => field.jsonName == name || field.name == name

/-- The last field with a number. -/
def fieldNumbered? (schema : MessageSchema) (number : UInt32) : Option FieldSchema :=
  schema.fields.reverse.find? fun field => field.number == number

/-- The numbers that fields have, each once. -/
def numbers (schema : MessageSchema) : List UInt32 :=
  (schema.fields.map (·.number)).eraseDups

end MessageSchema

end GrpcMock
