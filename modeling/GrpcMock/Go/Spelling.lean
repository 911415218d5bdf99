import GrpcMock.Failure
import GrpcMock.Go.Imports
import GrpcMock.Schema.Basic

/-!
Pieces of Go text that mention identifiers. How an identifier is written depends on what the file
has mentioned before, and what was mentioned before a failure stays mentioned.
-/

namespace GrpcMock.Go

/-- A way to write identifiers that keeps a state of type `σ`. -/
structure Speller (σ : Type) where
  spell : GoIdent → σ → String × σ

/-- A piece of Go text that may fail. -/
abbrev Rendering (σ : Type) := ExceptT Failure (StateM σ)

namespace Speller

/-- Writes identifiers in a way that needs no state. -/
def ofFunction (spell : GoIdent → String) : Speller Unit :=
  ⟨fun ident _ => (spell ident, ())⟩

/-- Imports what it mentions. -/
def imports : Speller Imports :=
  ⟨fun ident imports => imports.spell ident⟩

def write {σ : Type} (speller : Speller σ) (ident : GoIdent) : Rendering σ String :=
  ExceptT.lift (speller.spell ident)

/-- Writes an identifier of one of the packages that generated code relies on. -/
def writeFrom {σ : Type} (speller : Speller σ) (path name : String) : Rendering σ String :=
  speller.write ⟨name, path⟩

end Speller

/-- A part of a schema, or the failure that a field has none. -/
def required {α σ : Type} (field expected : String) : Option α → Rendering σ α
  | some part => pure part
  | none => throw (.missingSchema field expected)

/-- The Go type of one value of a field. Messages are held by pointers. -/
def typeName {σ : Type} (speller : Speller σ) (field : FieldSchema) : Rendering σ String :=
  match field.kind with
  | .enum => do
      let enum ← required field.name "enum" field.enumType
      speller.write enum.ident
  | .message | .group => do
      let message ← required field.name "message" field.message
      let name ← speller.write message.ident
      pure ("*" ++ name)
  | kind => pure (kind.goType?.getD "")

end GrpcMock.Go
