import GrpcMock.Text.Escaped

/-!
Go identifiers together with the package that declares them.
-/

namespace GrpcMock

structure GoIdent where
  name : String
  importPath : String
  deriving DecidableEq, Repr, Inhabited

/-- An identifier for people to read, with its package in quotes. -/
def GoIdent.display (ident : GoIdent) : String :=
  if ident.importPath.isEmpty then ident.name
  else Text.escaped ident.importPath ++ "." ++ ident.name

end GrpcMock
