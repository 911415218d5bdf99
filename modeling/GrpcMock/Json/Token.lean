import GrpcMock.Decimal.Numeral
import GrpcMock.Json.Value
import GrpcMock.Text.Quoted

/-!
The tokens of a JSON text. A string or number that is written correctly but stands for nothing, such
as a number beyond every double, is a token of its own: it can be passed over but not read.
-/

namespace GrpcMock.Json

open GrpcMock.Binary (Format)
open GrpcMock.Decimal (Numeral Range)
open GrpcMock.Text (Quoted.pieces? Quoted.join? Quoted.pieces?_length)

inductive Token where
  | openArray
  | closeArray
  | openObject
  | closeObject
  | comma
  | colon
  | leaf (value : Json)
  | string (text : Option String)
  | unsoundNumber
  deriving Repr

/-- White space between tokens. -/
def isSpace (c : Char) : Bool :=
  c == ' ' || c == '\n' || c == '\t' || c == '\r'

/-- The digits at the front of a text, with what follows them. -/
def spanDigits (text : List Char) : List Char × List Char :=
  (text.takeWhile Char.isDigit, text.dropWhile Char.isDigit)

/-- The fraction of a number, if it has one: a point and one or more digits. -/
def readFraction? : List Char → Option (List Char × List Char)
  | '.' :: rest =>
      if (spanDigits rest).1.isEmpty then none else some (spanDigits rest)
  | text => some ([], text)

/-- An optional sign, and whether it is a minus. -/
def readSign : List Char → Bool × List Char
  | '-' :: rest => (true, rest)
  | '+' :: rest => (false, rest)
  | text => (false, text)

/-- The exponent of a number, if it has one: a letter, an optional sign and one or more digits. -/
def readExponent? : List Char → Option (Option Int × List Char)
  | [] => some (none, [])
  | c :: rest =>
      if c = 'e' ∨ c = 'E' then
        let (digits, after) := spanDigits (readSign rest).2
        if digits.isEmpty then none
        else
          let value := Int.ofNat (Decimal.digitsValue digits)
          some (some (if (readSign rest).1 then -value else value), after)
      else some (none, c :: rest)

/-- The token of a number as a double, unless it is beyond every double. -/
def doubleToken (n : Numeral) : Token :=
  let bits := n.toBits .double
  if bits = Format.double.infinity n.negative then .unsoundNumber
  else .leaf (.number (.double bits))

/-- The token of a number without fraction and exponent: an integer if it fits 64 bits. There is no
negative zero among the integers. -/
def integerToken (negative : Bool) (digits : List Char) : Token :=
  let magnitude := Int.ofNat (Decimal.digitsValue digits)
  let value := if negative then -magnitude else magnitude
  if negative && magnitude = 0 then doubleToken ⟨true, 0, 0⟩
  else if (if negative then Range.int64.holds value else Range.uint64.holds value) then
    .leaf (.number (.integer value))
  else doubleToken ⟨negative, Decimal.digitsValue digits, 0⟩

/-- Reads the digits of a number, its sign already taken. Only zero itself begins with a zero. -/
def readMagnitude? (negative : Bool) (text : List Char) : Option (Token × List Char) := do
  let whole := (spanDigits text).1
  if whole.isEmpty || (whole.head? = some '0' && whole.length ≠ 1) then none
  else
    let (fraction, afterFraction) ← readFraction? (spanDigits text).2
    let (exponent, after) ← readExponent? afterFraction
    if fraction.isEmpty && exponent.isNone then pure (integerToken negative whole, after)
    else pure (doubleToken (.ofParts negative whole fraction (exponent.getD 0)), after)

/-- The tokens that are a single character. -/
def punctuation? (c : Char) : Option Token :=
  if c = '[' then some .openArray
  else if c = ']' then some .closeArray
  else if c = '\x7b' then some .openObject
  else if c = '\x7d' then some .closeObject
  else if c = ',' then some .comma
  else if c = ':' then some .colon
  else none

/-- The words that are values, each without its first letter. -/
def word? (c : Char) : Option (List Char × Json) :=
  if c = 'n' then some (['u', 'l', 'l'], .null)
  else if c = 't' then some (['r', 'u', 'e'], .bool true)
  else if c = 'f' then some (['a', 'l', 's', 'e'], .bool false)
  else none

/-- Reads the token that begins with a character. -/
def Token.read? (c : Char) (rest : List Char) : Option (Token × List Char) :=
  match punctuation? c, word? c with
  | some token, _ => some (token, rest)
  | none, some (letters, value) =>
      if letters.isPrefixOf rest then some (.leaf value, rest.drop letters.length) else none
  | none, none =>
      if c = '"' then
        (Quoted.pieces? rest).map fun read =>
          (.string ((Quoted.join? read.1).map String.ofList), read.2)
      else if c = '-' then readMagnitude? true rest
      else readMagnitude? false (c :: rest)

theorem spanDigits_length (text : List Char)
    : (spanDigits text).1.length + (spanDigits text).2.length = text.length := by
  simp only [spanDigits]
  rw [← List.length_append, List.takeWhile_append_dropWhile]

theorem readFraction?_length {text digits after : List Char}
    (h : readFraction? text = some (digits, after))
    : after.length ≤ text.length := by
  unfold readFraction? at h
  split at h
  · rename_i rest
    have := spanDigits_length rest
    split at h <;> simp_all
    omega
  · simp_all

theorem readSign_length (text : List Char) : (readSign text).2.length ≤ text.length := by
  unfold readSign
  split <;> simp

theorem readExponent?_length {text after : List Char} {exponent : Option Int}
    (h : readExponent? text = some (exponent, after))
    : after.length ≤ text.length := by
  unfold readExponent? at h
  split at h
  · simp_all
  · rename_i c rest
    have := spanDigits_length (readSign rest).2
    have := readSign_length rest
    split at h
    · split at h
      simp_all
      omega
    · simp_all

theorem readMagnitude?_length {negative : Bool} {text after : List Char} {token : Token}
    (h : readMagnitude? negative text = some (token, after))
    : after.length < text.length := by
  unfold readMagnitude? at h
  simp only [Option.bind_eq_bind, Option.pure_def] at h
  split at h
  · simp at h
  · rename_i hw
    simp only [Option.bind_eq_some_iff] at h
    obtain ⟨⟨fraction, afterFraction⟩, hf, ⟨exponent, left⟩, he, ht⟩ := h
    have h1 := spanDigits_length text
    have h2 := readFraction?_length hf
    have h3 : left.length ≤ afterFraction.length := readExponent?_length he
    have h4 : (spanDigits text).1.length ≠ 0 := by
      intro h0
      simp [List.eq_nil_of_length_eq_zero h0] at hw
    have h5 : left = after := by
      split at ht <;> simp_all
    subst h5
    omega

theorem Token.read?_length {c : Char} {rest after : List Char} {token : Token}
    (h : Token.read? c rest = some (token, after))
    : after.length ≤ rest.length := by
  unfold Token.read? at h
  split at h
  · simp_all
  · split at h
    · simp only [Option.some.injEq, Prod.mk.injEq] at h
      rw [← h.2]
      simp
    · simp at h
  · split at h
    · simp only [Option.map_eq_some_iff, Prod.mk.injEq] at h
      obtain ⟨read, hr, -, rfl⟩ := h
      exact Nat.le_of_lt (Quoted.pieces?_length hr)
    · split at h
      · exact Nat.le_of_lt (readMagnitude?_length h)
      · have := readMagnitude?_length h
        simp only [List.length_cons] at this
        omega

end GrpcMock.Json
