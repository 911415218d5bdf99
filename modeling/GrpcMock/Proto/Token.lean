import GrpcMock.Proto.Fault
import GrpcMock.Proto.Lexeme

/-!
The tokens of a schema text, each with its place. After the last of them stands an empty token,
which marks the end of the text.
-/

namespace GrpcMock.Proto

structure Token where
  text : String
  position : Position
  deriving DecidableEq, Repr, Inhabited

/-- The text up to the next place where a lexeme begins. -/
def strayText (before : Option Char) : List Char → List Char
  | [] => []
  | c :: rest =>
      if (lexeme? before (c :: rest)).isSome then [] else c :: strayText (some c) rest

/-- The tokens of a text that begins at a place, after the character `before`. -/
def tokensFrom (before : Option Char) (position : Position) : List Char → Except Fault (List Token)
  | [] => .ok [⟨"", position⟩]
  | c :: rest =>
      match lexeme? before (c :: rest) with
      | none => .error ⟨.strayText (String.ofList (strayText before (c :: rest))), position⟩
      | some (kind, length) =>
          let part := (c :: rest).take length
          have : (rest.drop (length - 1)).length < (c :: rest).length := by
            simp only [List.length_drop, List.length_cons]
            omega
          match tokensFrom part.getLast? (position.advance part) (rest.drop (length - 1)) with
          | .error fault => .error fault
          | .ok tokens =>
              .ok (if kind.isSkipped then tokens else ⟨String.ofList part, position⟩ :: tokens)
termination_by text => text.length

/-- The tokens of a schema text. -/
def tokenize (text : String) : Except Fault (List Token) :=
  tokensFrom none .start text.toList

end GrpcMock.Proto
