import GrpcMock.Proofs.Text.Quoted
import GrpcMock.Text.Bytes

/-!
Interpreted string literals of Go, with all the escapes that there are, and the bytes that they
stand for. A quoted text is such a literal, and it stands for the text.
-/

namespace GrpcMock.Go

open GrpcMock.Text (quote utf8Bytes)
open GrpcMock.Text.Quoted

/-- Where a reader of a literal is: between two characters, behind a backslash, within a number of
which digits are still to come, or behind the closing quote. A number stands for one byte, or for
the code point of a character. -/
inductive StringReader where
  | between
  | escape
  | number (isByte : Bool) (base value missing : Nat)
  | closed
  deriving DecidableEq

/-- The character that a letter stands for behind a backslash. -/
def letterEscape? (c : Char) : Option Char :=
  [
    ('a', Char.ofNat 7), ('b', Char.ofNat 8), ('f', Char.ofNat 12), ('n', Char.ofNat 10),
    ('r', Char.ofNat 13), ('t', Char.ofNat 9), ('v', Char.ofNat 11), ('\\', '\\'), ('"', '"')
  ].lookup c

/-- The bytes that a number stands for. Not every number is a byte, or that of a character. -/
def numberBytes? (isByte : Bool) (value : Nat) : Option (List UInt8) :=
  if isByte then if value < 256 then some [UInt8.ofNat value] else none
  else if value.isValidChar then some (String.utf8EncodeChar (Char.ofNat value)) else none

namespace StringReader

/-- A number with one more digit, which is complete if no digit is missing then. -/
def digit? (isByte : Bool) (base value missing : Nat) (c : Char)
    : Option (List UInt8 × StringReader) := do
  let digit ← (hexValue? c).filter (· < base)
  let value := value * base + digit
  if missing = 0 then
    let bytes ← numberBytes? isByte value
    pure (bytes, .between)
  else pure ([], .number isByte base value missing)

/-- The bytes that one character adds to those of a literal, and where the reader is behind it. -/
def step? : StringReader → Char → Option (List UInt8 × StringReader)
  | .between, c =>
      if c = '"' then some ([], .closed)
      else if c = '\\' then some ([], .escape)
      else if c = '\n' then none
      else some (String.utf8EncodeChar c, .between)
  | .escape, c =>
      if c = 'x' then some ([], .number true 16 0 2)
      else if c = 'u' then some ([], .number false 16 0 4)
      else if c = 'U' then some ([], .number false 16 0 8)
      else
        match letterEscape? c with
        | some char => some (String.utf8EncodeChar char, .between)
        | none => digit? true 8 0 2 c
  | .number isByte base value missing, c => digit? isByte base value (missing - 1) c
  | .closed, _ => none

/-- The bytes of a literal from where the reader is up to its end, which is the end of the text. -/
def bytes? : StringReader → List Char → Option (List UInt8)
  | .closed, [] => some []
  | _, [] => none
  | reader, c :: rest => do
      let (bytes, next) ← reader.step? c
      let more ← next.bytes? rest
      pure (bytes ++ more)

end StringReader

/-- The bytes that a string literal stands for. -/
def stringBytes? : List Char → Option (List UInt8)
  | '"' :: rest => StringReader.between.bytes? rest
  | _ => none

-----------------------------------------------------------------------------------------
-- Quoted texts
-----------------------------------------------------------------------------------------

namespace StringReader

variable {reader next : StringReader} {c : Char} {rest : List Char}

theorem bytes?_cons {bytes : List UInt8} (step : reader.step? c = some (bytes, next))
    : reader.bytes? (c :: rest) = (next.bytes? rest).map (bytes ++ ·) := by
  simp only [bytes?, step, Option.bind_eq_bind, Option.bind_some]
  cases next.bytes? rest <;> rfl

/-- A character that only moves the reader. -/
theorem bytes?_cons_nil (step : reader.step? c = some ([], next))
    : reader.bytes? (c :: rest) = next.bytes? rest := by
  rw [bytes?_cons step]
  cases next.bytes? rest <;> rfl

/-- A digit that is not the last one of a number. -/
theorem step?_digit {isByte : Bool} {value missing digit : Nat} (more : missing ≠ 0)
    (read : hexValue? c = some digit) (small : digit < 16)
    : (number isByte 16 value (missing + 1)).step? c
      = some ([], number isByte 16 (value * 16 + digit) missing) := by
  simp [step?, digit?, read, Option.filter_some, small, more]

/-- The last digit of the code point of a character. -/
theorem step?_lastDigit {value digit : Nat} (read : hexValue? c = some digit) (small : digit < 16)
    (valid : (value * 16 + digit).isValidChar)
    : (number false 16 value 1).step? c
      = some (String.utf8EncodeChar (Char.ofNat (value * 16 + digit)), between) := by
  simp [step?, digit?, read, Option.filter_some, small, numberBytes?, valid]

/-- An escaped character adds its bytes, and the reader is between two characters again. -/
theorem bytes?_escape (c : Char) (rest : List Char)
    : between.bytes? (Text.Quoted.escape c ++ rest)
      = (between.bytes? rest).map (String.utf8EncodeChar c ++ ·) := by
  have backslash : between.step? '\\' = some ([], escape) := rfl
  have form := escaped c
  generalize Text.Quoted.escape c = written at form ⊢
  cases form with
  | plain notQuote notBackslash visible =>
      have sameLine := ne_newline_of_visible (Nat.not_lt.mp visible)
      exact bytes?_cons (by simp [step?, notQuote, notBackslash, sameLine])
  | letter listed =>
      have each
          : ∀ pair ∈ letters,
              escape.step? pair.1 = some (String.utf8EncodeChar pair.2, between) := by
        decide
      exact (bytes?_cons_nil backslash).trans (bytes?_cons (each _ listed))
  | number control =>
      have zero : hexValue? '0' = some 0 := by decide
      have high : hexValue? (hexDigit (c.toNat / 16)) = some (c.toNat / 16) :=
        hexValue?_hexDigit (by omega)
      have low : hexValue? (hexDigit (c.toNat % 16)) = some (c.toNat % 16) :=
        hexValue?_hexDigit (by omega)
      have whole : c.toNat / 16 * 16 + c.toNat % 16 = c.toNat := by omega
      have opened : escape.step? 'u' = some ([], number false 16 0 4) := rfl
      have valid : (c.toNat / 16 * 16 + c.toNat % 16).isValidChar := by
        rw [whole]
        exact c.valid
      have last := step?_lastDigit low (by omega) valid
      rw [whole, Char.ofNat_toNat] at last
      simp only [List.cons_append, List.nil_append]
      rw [bytes?_cons_nil backslash, bytes?_cons_nil opened,
        bytes?_cons_nil (step?_digit (by decide) zero (by decide)),
        bytes?_cons_nil (step?_digit (by decide) zero (by decide)),
        bytes?_cons_nil (step?_digit (by decide) high (by omega))]
      simp only [Nat.zero_mul, Nat.zero_add]
      exact bytes?_cons last

end StringReader

/-- A quoted text is a string literal that stands for the text. -/
theorem stringBytes?_quote (text : String)
    : stringBytes? (quote text).toList = some (utf8Bytes text.toList) := by
  have body (text : List Char)
      : StringReader.between.bytes? (text.flatMap escape ++ ['"']) = some (utf8Bytes text) := by
    induction text with
    | nil => rfl
    | cons c rest ih =>
        rw [List.flatMap_cons, List.append_assoc, StringReader.bytes?_escape, ih]
        rfl
  rw [quote, String.toList_ofList, encode, stringBytes?, body]

end GrpcMock.Go
