import GrpcMock.Decimal.Shortest
import GrpcMock.Json.Value
import GrpcMock.Text.Quoted

/-!
JSON text. The compact form has no white space; the pretty form puts every item and member on a line
of its own, indented by two spaces a level.
-/

namespace GrpcMock.Json

open GrpcMock.Text (quote)
open GrpcMock.Decimal (Layout)
open GrpcMock.Binary (Format)

/-- Doubles are plain from five zeros after the point up to sixteen digits before it. -/
def numberLayout : Layout :=
  { plain := fun exponent => -5 ≤ exponent && exponent ≤ 15, plusSign := true }

def Number.render : Number → String
  | .integer n => toString n
  | .double bits => String.ofList (Decimal.renderBits numberLayout .double bits)

mutual
def compact : Json → String
  | .null => "null"
  | .bool value => if value then "true" else "false"
  | .number value => value.render
  | .string value => quote value
  | .array items => "[" ++ ",".intercalate (compactItems items) ++ "]"
  | .object members => "\x7b" ++ ",".intercalate (compactMembers members) ++ "\x7d"

def compactItems : List Json → List String
  | [] => []
  | item :: rest => compact item :: compactItems rest

def compactMembers : List (String × Json) → List String
  | [] => []
  | (name, value) :: rest => (quote name ++ ":" ++ compact value) :: compactMembers rest
end

/-- A line break followed by the indentation of a level. -/
def lineBreak (level : Nat) : String :=
  "\n" ++ String.ofList (List.replicate (2 * level) ' ')

/-- Parts between brackets, each on its own line one level further in. -/
def bracketed (level : Nat) (opening closing : String) (parts : List String) : String :=
  if parts.isEmpty then opening ++ closing
  else
    opening ++ lineBreak (level + 1) ++ ("," ++ lineBreak (level + 1)).intercalate parts
      ++ lineBreak level ++ closing

mutual
def prettyAt (level : Nat) : Json → String
  | .null => "null"
  | .bool value => if value then "true" else "false"
  | .number value => value.render
  | .string value => quote value
  | .array items => bracketed level "[" "]" (prettyItems (level + 1) items)
  | .object members => bracketed level "\x7b" "\x7d" (prettyMembers (level + 1) members)

def prettyItems (level : Nat) : List Json → List String
  | [] => []
  | item :: rest => prettyAt level item :: prettyItems level rest

def prettyMembers (level : Nat) : List (String × Json) → List String
  | [] => []
  | (name, value) :: rest =>
      (quote name ++ ": " ++ prettyAt level value) :: prettyMembers level rest
end

def pretty (value : Json) : String :=
  prettyAt 0 value

end GrpcMock.Json
