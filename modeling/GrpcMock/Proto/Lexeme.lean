import GrpcMock.Text.Blank
import GrpcMock.Text.WordChar

/-!
The lexemes of a schema text: tokens, and the comments and white space between them. Each kind has a
function that gives the length of its lexeme at the front of a text. Words may not touch: a name or
number ends only where no word character follows, and begins only where none came before.
-/

namespace GrpcMock.Proto

open GrpcMock.Text (isBlank isDecimalDigit isNameChar isNameStart isWordChar)

inductive LexemeKind where
  | string
  | number
  | punctuation
  | name
  | lineComment
  | blockComment
  | blank
  deriving DecidableEq, Repr

/-- Whether the lexemes of a kind are passed over. -/
def LexemeKind.isSkipped : LexemeKind → Bool
  | .lineComment | .blockComment | .blank => true
  | _ => false

/-- The length of the rest of a string, its closing quote included. A string ends on its line, and a
backslash takes the next character with it. -/
def stringTail? : List Char → Option Nat
  | [] => none
  | '"' :: _ => some 1
  | '\\' :: c :: rest => if c = '\n' then none else (stringTail? rest).map (· + 2)
  | c :: rest => if c = '\n' ∨ c = '\\' then none else (stringTail? rest).map (· + 1)

def string? : List Char → Option Nat
  | '"' :: rest => (stringTail? rest).map (· + 1)
  | _ => none

def digits? (text : List Char) : Option Nat :=
  let length := (text.takeWhile isDecimalDigit).length
  if length = 0 || (text.drop length).head?.any isWordChar then none else some length

/-- A number. A minus sign may follow anything. -/
def number? (before : Option Char) : List Char → Option Nat
  | '-' :: rest => (digits? rest).map (· + 1)
  | text => if before.any isWordChar then none else digits? text

def isPunctuation (c : Char) : Bool :=
  c ∈ ['=', ';', '\x7b', '\x7d', '(', ')', '<', '>', ',', '[', ']']

def punctuation? : List Char → Option Nat
  | c :: _ => if isPunctuation c then some 1 else none
  | [] => none

/-- One or more names joined by dots. The last of them is given up if it runs into a further word
character. -/
def dottedName? (text : List Char) : Option Nat :=
  let length := (text.takeWhile isNameChar).length
  if text.head?.any isNameStart then
    match h : text.drop length with
    | [] => some length
    | c :: rest =>
        if c = '.' then
          have : rest.length < text.length := by
            have := congrArg List.length h
            simp only [List.length_drop, List.length_cons] at this
            omega
          some (((dottedName? rest).map (· + (length + 1))).getD length)
        else if isWordChar c then none
        else some length
  else none
termination_by text.length

/-- A name, which may begin with a dot. -/
def name? (before : Option Char) : List Char → Option Nat
  | '.' :: rest => (dottedName? rest).map (· + 1)
  | text => if before.any isWordChar then none else dottedName? text

def lineComment? : List Char → Option Nat
  | '/' :: '/' :: rest => some ((rest.takeWhile (· != '\n')).length + 2)
  | _ => none

/-- The length of the rest of a block comment, up to the first place where it closes. -/
def blockCommentTail? : List Char → Option Nat
  | [] => none
  | '*' :: '/' :: _ => some 2
  | _ :: rest => (blockCommentTail? rest).map (· + 1)

def blockComment? : List Char → Option Nat
  | '/' :: '*' :: rest => (blockCommentTail? rest).map (· + 2)
  | _ => none

def blank? (text : List Char) : Option Nat :=
  let length := (text.takeWhile isBlank).length
  if length = 0 then none else some length

/-- The lexeme at the front of a text, by kind and length; `before` is the character that came
before the text. -/
def lexeme? (before : Option Char) (text : List Char) : Option (LexemeKind × Nat) :=
  (string? text).map (LexemeKind.string, ·)
    <|> (number? before text).map (LexemeKind.number, ·)
    <|> (punctuation? text).map (LexemeKind.punctuation, ·)
    <|> (name? before text).map (LexemeKind.name, ·)
    <|> (lineComment? text).map (LexemeKind.lineComment, ·)
    <|> (blockComment? text).map (LexemeKind.blockComment, ·)
    <|> (blank? text).map (LexemeKind.blank, ·)

end GrpcMock.Proto
