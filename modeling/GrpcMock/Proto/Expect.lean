import GrpcMock.Decimal.Integer
import GrpcMock.Proto.Token
import GrpcMock.Text.Split

/-!
Reading single tokens off the front of a list. A reader returns what it read and the tokens after
it, or the fault at the token where it failed. What a reader takes makes the list shorter.
-/

namespace GrpcMock.Proto

open GrpcMock.Decimal (Range)
open GrpcMock.Text (isDecimalDigit isNameChar isNameStart split stripStart? unquote?)

/-- A name without dots. -/
def isIdentifier (text : String) : Bool :=
  text.toList.head?.any isNameStart && text.toList.all isNameChar

/-- Names joined by dots, which may begin with a dot. -/
def isTypeName (text : String) : Bool :=
  (split '.' ((stripStart? "." text).getD text)).all isIdentifier

def isInteger (text : String) : Bool :=
  let digits := ((stripStart? "-" text).getD text).toList
  !digits.isEmpty && digits.all isDecimalDigit

/-- Anything on one line between two quotes. -/
def isString (text : String) : Bool :=
  text.toList.head? = some '"' && text.toList.getLast? = some '"' && 2 ≤ text.toList.length
    && text.toList.all (· != '\n')

def Want.accepts (want : Want) (text : String) : Bool :=
  match want with
  | .word spelling => text == spelling
  | .identifier => isIdentifier text
  | .packageName | .typeName | .mapKeyType | .mapValueType => isTypeName text
  | .integer => isInteger text
  | .string => isString text

abbrev Tokens := List Token

/-- The fault of finding a token where it may not be. An exhausted list counts as the empty token.
-/
def unexpected : Tokens → Fault
  | [] => ⟨.unexpected "", .start⟩
  | token :: _ => ⟨.unexpected token.text, token.position⟩

/-- Takes a token that is what a reader wants. -/
def expect (want : Want) : Tokens → Except Fault (Token × Tokens)
  | [] => .error ⟨.expected want "", .start⟩
  | token :: rest =>
      if want.accepts token.text then .ok (token, rest)
      else .error ⟨.expected want token.text, token.position⟩

theorem expect_length {want : Want} {tokens rest : Tokens} {token : Token}
    (h : expect want tokens = .ok (token, rest))
    : rest.length < tokens.length := by
  unfold expect at h
  split at h
  · simp at h
  · split at h <;> simp_all

/-- Takes a word. -/
def expectWord (word : String) (tokens : Tokens) : Except Fault Tokens :=
  match expect (.word word) tokens with
  | .error fault => .error fault
  | .ok (_, rest) => .ok rest

theorem expectWord_length {word : String} {tokens rest : Tokens}
    (h : expectWord word tokens = .ok rest)
    : rest.length < tokens.length := by
  unfold expectWord at h
  split at h
  · simp at h
  · rename_i he
    simp only [Except.ok.injEq] at h
    exact h ▸ expect_length he

/-- Takes an integer of 32 bits. -/
def expectInteger (tokens : Tokens) : Except Fault (Int32 × Tokens) :=
  match expect .integer tokens with
  | .error fault => .error fault
  | .ok (token, rest) =>
      match Range.int32.read? token.text.toList with
      | none => .error ⟨.invalidInteger token.text, token.position⟩
      | some value => .ok (Int32.ofInt value, rest)

theorem expectInteger_length {tokens rest : Tokens} {value : Int32}
    (h : expectInteger tokens = .ok (value, rest))
    : rest.length < tokens.length := by
  unfold expectInteger at h
  split at h
  · simp at h
  · rename_i he
    split at h
    · simp at h
    · simp only [Except.ok.injEq, Prod.mk.injEq] at h
      exact h.2 ▸ expect_length he

/-- Takes a string, with the text it stands for and its place. -/
def expectString (tokens : Tokens) : Except Fault (String × Position × Tokens) :=
  match expect .string tokens with
  | .error fault => .error fault
  | .ok (token, rest) =>
      match unquote? token.text with
      | none => .error ⟨.invalidString token.text, token.position⟩
      | some text => .ok (text, token.position, rest)

theorem expectString_length {tokens rest : Tokens} {text : String} {position : Position}
    (h : expectString tokens = .ok (text, position, rest))
    : rest.length < tokens.length := by
  unfold expectString at h
  split at h
  · simp at h
  · rename_i he
    split at h
    · simp at h
    · simp only [Except.ok.injEq, Prod.mk.injEq] at h
      exact h.2.2 ▸ expect_length he

/-- Passes over a statement, up to and including its semicolon; those between braces do not end it.
-/
def skipStatement (depth : Nat) : Tokens → Except Fault Tokens
  | [] => .error (unexpected [])
  | token :: rest =>
      if token.text = "" then .error (unexpected (token :: rest))
      else if token.text = "\x7b" then skipStatement (depth + 1) rest
      else if token.text = "\x7d" ∧ 0 < depth then skipStatement (depth - 1) rest
      else if token.text = ";" ∧ depth = 0 then .ok rest
      else skipStatement depth rest

theorem skipStatement_length {depth : Nat} {tokens rest : Tokens}
    (h : skipStatement depth tokens = .ok rest)
    : rest.length < tokens.length := by
  fun_induction skipStatement depth tokens <;> simp_all <;> omega

/-- Passes over the rest of a list in brackets, `depth` of which are open. -/
def skipBrackets (depth : Nat) : Tokens → Except Fault Tokens
  | [] => if depth = 0 then .ok [] else .error (unexpected [])
  | token :: rest =>
      if depth = 0 then .ok (token :: rest)
      else if token.text = "" then .error (unexpected (token :: rest))
      else if token.text = "[" then skipBrackets (depth + 1) rest
      else if token.text = "]" then skipBrackets (depth - 1) rest
      else skipBrackets depth rest

theorem skipBrackets_length {depth : Nat} {tokens rest : Tokens}
    (h : skipBrackets depth tokens = .ok rest)
    : rest.length ≤ tokens.length := by
  fun_induction skipBrackets depth tokens <;> simp_all <;> omega

/-- Passes over the options of a field, if there are any. -/
def skipOptions : Tokens → Except Fault Tokens
  | [] => .ok []
  | token :: rest => if token.text = "[" then skipBrackets 1 rest else .ok (token :: rest)

theorem skipOptions_length {tokens rest : Tokens} (h : skipOptions tokens = .ok rest)
    : rest.length ≤ tokens.length := by
  unfold skipOptions at h
  split at h
  · simp_all
  · split at h
    · have := skipBrackets_length h
      simp only [List.length_cons]
      omega
    · simp_all

end GrpcMock.Proto
