import GrpcMock.Naming
import GrpcMock.Schema.Package
import GrpcMock.Text.Split

/-!
The Go package that the code generated from a schema file lives in. A file can name it in an option,
and otherwise it is derived from the package of the file.
-/

namespace GrpcMock

open GrpcMock.Text (afterLast split splitFirst?)

/-- The package of an option, which is an import path with or without a name after a semicolon. The
last part of the path stands in for a name that is left out. -/
def GoPackage.ofOption (option : String) : GoPackage :=
  match splitFirst? ';' option with
  | some (path, name) => ⟨path, Naming.goPackageName name⟩
  | none => ⟨option, Naming.goPackageName (afterLast '/' option)⟩

/-- The package of a file without the option: its path is made of the parts of the name. -/
def GoPackage.ofName (package : String) : GoPackage :=
  ⟨"/".intercalate (split '.' package), Naming.goPackageName (afterLast '.' package)⟩

/-- The package of a file, from the package that it names and from its option. -/
def GoPackage.ofFile (package option : Option String) : GoPackage :=
  match option with
  | some option => .ofOption option
  | none => .ofName (package.getD "")

end GrpcMock
