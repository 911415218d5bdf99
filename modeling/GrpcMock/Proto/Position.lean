/-!
Places in a text. Lines and columns count from one, and a column counts the bytes of its line.
-/

namespace GrpcMock

structure Position where
  line : Nat
  column : Nat
  deriving DecidableEq, Repr, Inhabited

namespace Position

def start : Position := ⟨1, 1⟩

def step (position : Position) (c : Char) : Position :=
  if c = '\n' then ⟨position.line + 1, 1⟩
  else ⟨position.line, position.column + c.utf8Size⟩

/-- The place after a piece of text. -/
def advance (position : Position) (text : List Char) : Position :=
  text.foldl step position

end Position

end GrpcMock
