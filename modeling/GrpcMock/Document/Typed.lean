import GrpcMock.Document
import GrpcMock.Document.Need
import GrpcMock.Json.Writer
import GrpcMock.Text.Escaped

/-!
Readers of typed values: texts, lists and maps. What is absent counts as empty, and a tag does not
matter where the type is known.
-/

namespace GrpcMock.Document

/-- What is found in place of something else, unless the text is at fault there. -/
def found? : Document → Option String
  | .leaf .null => some "null"
  | .leaf (.bool value) => some ("boolean \x60" ++ (if value then "true" else "false") ++ "\x60")
  | .leaf (.number (.integer n)) => some ("integer \x60" ++ toString n ++ "\x60")
  | .leaf (.number (.double bits)) =>
      some ("floating point \x60" ++ (Json.Number.double bits).render ++ "\x60")
  | .text literal _ => some ("string " ++ Text.escaped literal)
  | .list _ _ _ => some "sequence"
  | .table _ _ => some "map"
  | _ => none

/-- The fault of a document that is not what its place asks for. -/
def unfit (expected : String) (document : Document) : Fault :=
  match found? document with
  | some found => .wrongType found expected
  | none => .malformed

/-- A document without its tag. -/
def untagged : Document → Document
  | .tagged content => content
  | document => document

/-- A way to read values of a type, with the parts of a document that it looks at. -/
structure Reader (α : Type) where
  need : Need
  read : Document → Except Fault α

def readText (document : Document) : Except Fault String :=
  match document.untagged with
  | .text literal _ => .ok literal
  | .absent _ => .ok ""
  | other => .error (other.unfit "a string")

def readOptionalText (document : Document) : Except Fault (Option String) :=
  match document.untagged with
  | .leaf .null => .ok none
  | other => other.readText.map some

variable {α β : Type} (read : Document → Except Fault α)

/-- Reads items up to the place where the list ends, or breaks off. -/
def readItems (whole : Bool) : List Document → Except Fault (List α)
  | [] => if whole then .ok [] else .error .malformed
  | item :: rest => do
      let item ← read item
      let rest ← readItems whole rest
      pure (item :: rest)

def readList (document : Document) : Except Fault (List α) :=
  match document.untagged with
  | .list _ items whole => readItems read whole items
  | .absent _ => .ok []
  | other => .error (other.unfit "a sequence")

/-- Reads members up to the place where the table ends, or breaks off. -/
def readEntries (whole : Bool)
    : List (Option String × Document) → Except Fault (List (String × α))
  | [] => if whole then .ok [] else .error .malformed
  | (none, _) :: _ => .error .malformed
  | (some name, value) :: rest => do
      let value ← read value
      let rest ← readEntries whole rest
      pure ((name, value) :: rest)

/-- Reads a map with names of any kind. The last of several members with one name counts, and the
members end up in the order of their names. -/
def readMap (document : Document) : Except Fault (List (String × α)) :=
  match document.untagged with
  | .table members whole => (readEntries read whole members).map Sorted.ofList
  | .absent _ => .ok []
  | other => .error (other.unfit "a map")

namespace Reader

def text : Reader String := ⟨.nothing, readText⟩

/-- Reads a text that may be left out or given as null. -/
def optionalText : Reader (Option String) := ⟨.nothing, readOptionalText⟩

def payload : Reader Json := ⟨.everything, Document.payload⟩

def list (item : Reader α) : Reader (List α) := ⟨.items item.need, readList item.read⟩

def map (value : Reader α) : Reader (List (String × α)) :=
  ⟨.members value.need, readMap value.read⟩

/-- Reads values of one type from those of another. -/
def convert (reader : Reader α) (f : α → β) : Reader β :=
  ⟨reader.need, fun document => (reader.read document).map f⟩

end Reader

end GrpcMock.Document
