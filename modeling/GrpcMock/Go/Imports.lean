import GrpcMock.Go.Ident
import GrpcMock.Naming
import GrpcMock.Sorted
import GrpcMock.Text.Quoted
import GrpcMock.Text.Split

/-!
The imports of a Go file. Every package that the file refers to gets a name of its own, which is the
last part of its import path unless that is taken.
-/

namespace GrpcMock.Go

open GrpcMock.Text (afterLast quote)

structure Imports where
  /-- The path of the package that the file belongs to. -/
  localPath : String
  /-- The name of each package, in the order of the import paths. -/
  aliases : List (String × String)
  deriving DecidableEq, Repr

namespace Imports

/-- No imports yet. -/
def empty (localPath : String) : Imports := ⟨localPath, []⟩

/-- A name as it stands, or with a number from one on at its end. -/
def numbered (base : String) (n : Nat) : String :=
  if n = 0 then base else base ++ toString n

/-- The first of the numbered names that is not taken. One number more than there are names taken is
enough to find it. -/
def freeName (base : String) (taken : List String) : String :=
  (((List.range (taken.length + 1)).map (numbered base)).find? (· ∉ taken)).getD base

/-- The name of a package, which is imported if it is not yet. -/
def importPath (imports : Imports) (path : String) : String × Imports :=
  match Sorted.find? path imports.aliases with
  | some name => (name, imports)
  | none =>
      let base := Naming.goPackageName (afterLast '/' path)
      let name := freeName base (imports.aliases.map Prod.snd)
      (name, { imports with aliases := Sorted.insert path name imports.aliases })

/-- An identifier as the file writes it. One of the same package needs no import, and neither does
one that no package declares. -/
def spell (imports : Imports) (ident : GoIdent) : String × Imports :=
  if ident.importPath.isEmpty ∨ ident.importPath = imports.localPath then (ident.name, imports)
  else
    let (name, imports) := imports.importPath ident.importPath
    (name ++ "." ++ ident.name, imports)

/-- The names and paths of the packages, in the order of the paths. -/
def entries (imports : Imports) : List (String × String) :=
  imports.aliases.map Prod.swap

/-- The import declaration of the file, which is left out if nothing is imported. -/
def render (imports : Imports) : String :=
  if imports.aliases.isEmpty then ""
  else
    let lines := imports.aliases.map fun (path, name) => "\t" ++ name ++ " " ++ quote path ++ "\n"
    "import (\n" ++ String.join lines ++ ")\n"

end Imports

end GrpcMock.Go
