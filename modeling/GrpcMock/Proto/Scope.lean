import GrpcMock.Proto.File
import GrpcMock.Schema.Kind
import GrpcMock.Text.Split

/-!
What the name of a type refers to. A name is looked for in the scope around it first, and then in
each scope around that one up to the root of all packages; a leading dot sends it to the root at
once.
-/

namespace GrpcMock.Proto

open GrpcMock.Text (split stripStart?)

/-- What a name refers to. -/
inductive Target where
  | scalar (kind : FieldKind)
  | definition (definition : Definition)
  deriving DecidableEq, Repr

namespace Target

def isMapKey : Target → Bool
  | .scalar kind => kind.isMapKey
  | .definition _ => false

def isMapEntry : Target → Bool
  | .scalar _ => false
  | .definition found => found.isMapEntry

/-- The message that a name refers to, if it does. -/
def message? : Target → Option Definition
  | .scalar _ => none
  | .definition found => if found.kind = .message then some found else none

end Target

namespace File

/-- The last definition with a name, which is relative to the package. -/
def definition? (file : File) (name : String) : Option Definition :=
  file.definitions.reverse.find? fun definition => definition.name == name

/-- What a full name is called inside the package, if it belongs to the package. -/
def relative? (file : File) (fullName : String) : Option String :=
  match file.package with
  | none => some fullName
  | some package => stripStart? (package ++ ".") fullName

def definitionAt? (file : File) (fullName : String) : Option Definition := do
  let name ← file.relative? fullName
  file.definition? name

/-- The names of the scopes around a scope of the package, from the root inwards. -/
def scopeParts (file : File) (scope : String) : List String :=
  (file.package.map (split '.')).getD [] ++ (split '.' scope).filter (!·.isEmpty)

/-- A name in the scope that a path leads to. -/
def nameUnder (path : List String) (name : String) : String :=
  let scope := ".".intercalate path
  if scope.isEmpty then name else scope ++ "." ++ name

/-- Looks for a name in the scope of a path, given from the innermost part on, and then outwards. -/
def searchOutwards (file : File) (name : String) : List String → Option Definition
  | [] => file.definitionAt? name
  | inner :: outer =>
      match file.definitionAt? (nameUnder (inner :: outer).reverse name) with
      | some definition => some definition
      | none => searchOutwards file name outer

/-- What a name refers to in the scope of a definition; the scope of the file itself has no name. -/
def resolve (file : File) (scope name : String) : Option Target :=
  match FieldKind.ofKeyword? name with
  | some kind => some (.scalar kind)
  | none =>
      match stripStart? "." name with
      | some fullName => (file.definitionAt? fullName).map .definition
      | none =>
          (file.searchOutwards name (file.scopeParts scope).reverse).map .definition

/-- The message that a name refers to in the scope of the file. -/
def resolveMessage? (file : File) (name : String) : Option Definition := do
  let target ← file.resolve "" name
  target.message?

end File

end GrpcMock.Proto
