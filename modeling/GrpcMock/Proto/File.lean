import GrpcMock.Json.Value
import GrpcMock.Proto.Position

/-!
A schema file as it is written. Messages and enums stand in one list; a nested one follows the
message around it and is named by the path that leads to it, such as `Outer.Inner`.
-/

namespace GrpcMock.Proto

inductive Dialect where
  | proto2
  | proto3
  deriving DecidableEq, Repr, Inhabited

def Dialect.name : Dialect → String
  | .proto2 => "proto2"
  | .proto3 => "proto3"

inductive Label where
  | singular
  /-- Written `optional` or `required`. -/
  | optional
  | repeated
  | map
  | group
  | repeatedGroup
  deriving DecidableEq, Repr

namespace Label

def isRepeated : Label → Bool
  | .repeated | .repeatedGroup => true
  | _ => false

def isGroup : Label → Bool
  | .group | .repeatedGroup => true
  | _ => false

def name : Label → String
  | .singular => "Singular"
  | .optional => "Optional"
  | .repeated => "Repeated"
  | .map => "Map"
  | .group => "Group"
  | .repeatedGroup => "RepeatedGroup"

end Label

/-- A field of a message, or a value of an enum, which has no type. -/
structure Field where
  name : String
  position : Position
  type : Option String
  label : Label
  number : Int32
  deriving DecidableEq, Repr

inductive DefinitionKind where
  | enum
  | message
  deriving DecidableEq, Repr

def DefinitionKind.name : DefinitionKind → String
  | .enum => "Enum"
  | .message => "Message"

structure Definition where
  name : String
  position : Position
  kind : DefinitionKind
  fields : List Field
  isMapEntry : Bool
  deriving DecidableEq, Repr

structure Rpc where
  name : String
  position : Position
  inputType : String
  outputType : String
  deriving DecidableEq, Repr

structure Service where
  name : String
  position : Position
  methods : List Rpc
  deriving DecidableEq, Repr

structure File where
  dialect : Dialect
  package : Option String
  goPackage : Option String
  definitions : List Definition
  services : List Service
  deriving DecidableEq, Repr

/-- The file of a text without declarations. -/
def File.empty : File :=
  {
    dialect := .proto2,
    package := none,
    goPackage := none,
    definitions := [],
    services := []
  }

/-- How many steps a walk can still take that enters each of some definitions at most once and goes
through the fields of those that it enters. -/
def stepsWithin (room : List Definition) : Nat :=
  (room.flatMap (·.fields)).length + 3 * room.length

/-- Entering a definition leaves fewer steps, even with those through its fields. -/
theorem stepsWithin_erase {room : List Definition} {definition : Definition}
    (member : definition ∈ room)
    : stepsWithin room = definition.fields.length + 3 + stepsWithin (room.erase definition) := by
  have order := List.perm_cons_erase member
  have fields := (order.flatMap_right (·.fields)).length_eq
  have definitions := order.length_eq
  simp only [List.flatMap_cons, List.length_append] at fields
  simp only [List.length_cons] at definitions
  unfold stepsWithin
  omega

end GrpcMock.Proto
