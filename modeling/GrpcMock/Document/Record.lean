import GrpcMock.Document.Typed

/-!
Readings of records, the members of which have fixed names. A record is a table of its members, in
any order, or a positional list of them in the order of their declaration. What was read of it so
far is a `ρ`, which has room for each member.
-/

namespace GrpcMock.Document

/-- A member of a record. -/
structure Slot (ρ : Type) where
  name : String
  /-- There is nothing to stand in for the member if it is left out. -/
  isRequired : Bool
  need : Need
  isFilled : ρ → Bool
  fill : Document → ρ → Except Fault ρ

namespace Slot

variable {α ρ σ : Type}

/-- The only member of what is left of a record. -/
def last (name : String) (isRequired : Bool) (reader : Reader α) : Slot (Option α) :=
  ⟨name, isRequired, reader.need, Option.isSome,
    fun document _ => (reader.read document).map some⟩

/-- The first member of what is left of a record. -/
def first (name : String) (isRequired : Bool) (reader : Reader α) : Slot (Option α × σ) :=
  ⟨name, isRequired, reader.need, fun record => record.1.isSome,
    fun document record => (reader.read document).map fun value => (some value, record.2)⟩

/-- A member of what follows the first one. -/
def next (slot : Slot ρ) : Slot (σ × ρ) :=
  ⟨slot.name, slot.isRequired, slot.need, fun record => slot.isFilled record.2,
    fun document record => (slot.fill document record.2).map fun rest => (record.1, rest)⟩

end Slot

/-- A record as a table or a list can give it. -/
structure Shape (ρ : Type) where
  name : String
  slots : List (Slot ρ)
  /-- The record with no member filled. -/
  blank : ρ

namespace Shape

variable {ρ : Type} (shape : Shape ρ)

/-- Reads the members of a table in the order of its text. Members that the record does not have are
passed over, and none may be given twice. -/
def readMembers (record : ρ) : List (Option String × Document) → Except Fault ρ
  | [] => .ok record
  | (none, _) :: _ => .error .malformed
  | (some name, value) :: rest =>
      match shape.slots.find? fun slot => slot.name == name with
      | none => if value.passable then readMembers record rest else .error .malformed
      | some slot =>
          if slot.isFilled record then .error (.duplicateMember name)
          else do
            let record ← slot.fill value record
            readMembers record rest

/-- Fails if a member is left out that must not be. -/
def checkFilled (record : ρ) : Except Fault ρ :=
  match shape.slots.find? fun slot => slot.isRequired && !slot.isFilled record with
  | some slot => .error (.missingMember slot.name)
  | none => .ok record

/-- Reads the members of a list. If the list ends early, the members that are left must not be
required; `count` members were read before. -/
def readInOrder (whole : Bool) (count : Nat) (record : ρ)
    : List (Slot ρ) → List Document → Except Fault ρ
  | [], [] => if whole then .ok record else .error .malformed
  | [], _ :: _ => .error .malformed
  | slot :: slots, [] =>
      if !whole then .error .malformed
      else if slot.isRequired then .error (.tooShort count shape.name shape.slots.length)
      else readInOrder whole (count + 1) record slots []
  | slot :: slots, item :: rest => do
      let record ← slot.fill item record
      readInOrder whole (count + 1) record slots rest

def read (document : Document) : Except Fault ρ :=
  match document.untagged with
  | .table members whole => do
      let record ← shape.readMembers shape.blank members
      if whole then shape.checkFilled record else .error .malformed
  | .list true items whole => shape.readInOrder whole 0 shape.blank shape.slots items
  | .absent _ => shape.checkFilled shape.blank
  | other => .error (other.unfit ("struct " ++ shape.name))

/-- Reads a record and makes a value of what was read of its members. -/
def reader {α : Type} (f : ρ → α) : Reader α :=
  ⟨.named (shape.slots.map fun slot => (slot.name, slot.need)),
    fun document => (shape.read document).map f⟩

end Shape

end GrpcMock.Document
