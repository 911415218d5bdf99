/-!
Quoted strings in the notation of JSON: `encode` writes one, `read` takes one off the front of a
text. What is written is also a string literal of Go, because every escape used means the same
there.
-/

namespace GrpcMock.Text.Quoted

/-- The digit for a value below sixteen, in lower case. -/
def hexDigit (n : Nat) : Char :=
  if n < 10 then Char.ofNat (0x30 + n) else Char.ofNat (0x61 + (n - 10))

/-- The value of a hexadecimal digit of either case. -/
def hexValue? (c : Char) : Option Nat :=
  if '0' ≤ c ∧ c ≤ '9' then some (c.toNat - 0x30)
  else if 'a' ≤ c ∧ c ≤ 'f' then some (c.toNat - 0x61 + 10)
  else if 'A' ≤ c ∧ c ≤ 'F' then some (c.toNat - 0x41 + 10)
  else none

/-- One character between quotes: the quote, the backslash and the controls are escaped. -/
def escape (c : Char) : List Char :=
  if c = '"' then ['\\', '"']
  else if c = '\\' then ['\\', '\\']
  else if c = '\n' then ['\\', 'n']
  else if c = '\r' then ['\\', 'r']
  else if c = '\t' then ['\\', 't']
  else if c.toNat = 8 then ['\\', 'b']
  else if c.toNat = 12 then ['\\', 'f']
  else if c.toNat < 0x20 then
    ['\\', 'u', '0', '0', hexDigit (c.toNat / 16), hexDigit (c.toNat % 16)]
  else [c]

def encode (text : List Char) : List Char :=
  '"' :: (text.flatMap escape ++ ['"'])

/-- A piece of a quoted string: a character as it stands, or a 16-bit unit given by its number. -/
inductive Piece where
  | char (c : Char)
  | unit (n : Nat)
  deriving DecidableEq, Repr

/-- The character that a one-letter escape stands for. -/
def unescape? (c : Char) : Option Char :=
  if c = '"' then some '"'
  else if c = '\\' then some '\\'
  else if c = '/' then some '/'
  else if c = 'b' then some (Char.ofNat 8)
  else if c = 'f' then some (Char.ofNat 12)
  else if c = 'n' then some '\n'
  else if c = 'r' then some '\r'
  else if c = 't' then some '\t'
  else none

/-- The number written by four hexadecimal digits. -/
def unitValue? (a b c d : Char) : Option Nat := do
  let a ← hexValue? a
  let b ← hexValue? b
  let c ← hexValue? c
  let d ← hexValue? d
  pure (((a * 16 + b) * 16 + c) * 16 + d)

/-- The pieces up to the closing quote, with what follows it. There are none if the string does not
end, holds a control character, or has an escape that does not exist. -/
def pieces? : List Char → Option (List Piece × List Char)
  | [] => none
  | '"' :: rest => some ([], rest)
  | '\\' :: 'u' :: a :: b :: c :: d :: rest => do
      let unit ← unitValue? a b c d
      let (pieces, after) ← pieces? rest
      pure (.unit unit :: pieces, after)
  | '\\' :: c :: rest => do
      let char ← unescape? c
      let (pieces, after) ← pieces? rest
      pure (.char char :: pieces, after)
  | c :: rest =>
      if c.toNat < 0x20 ∨ c = '\\' then none
      else do
        let (pieces, after) ← pieces? rest
        pure (.char c :: pieces, after)

/-- Reading a string takes at least its closing quote. -/
theorem pieces?_length {text after : List Char} {pieces : List Piece}
    (h : pieces? text = some (pieces, after))
    : after.length < text.length := by
  fun_induction pieces? text generalizing pieces with
  | case1 => simp at h
  | case2 rest => simp_all
  | case3 a b c d rest ih =>
      simp only [Option.bind_eq_bind, Option.bind_eq_some_iff, Option.pure_def] at h
      obtain ⟨unit, -, ⟨read, left⟩, hr, he⟩ := h
      simp only [Option.some.injEq, Prod.mk.injEq] at he
      have := ih (he.2 ▸ hr)
      simp only [List.length_cons]
      omega
  | case4 c rest _ ih =>
      simp only [Option.bind_eq_bind, Option.bind_eq_some_iff, Option.pure_def] at h
      obtain ⟨char, -, ⟨read, left⟩, hr, he⟩ := h
      simp only [Option.some.injEq, Prod.mk.injEq] at he
      have := ih (he.2 ▸ hr)
      simp only [List.length_cons]
      omega
  | case5 => simp at h
  | case6 c rest _ _ _ _ ih =>
      simp only [Option.bind_eq_bind, Option.bind_eq_some_iff, Option.pure_def] at h
      obtain ⟨⟨read, left⟩, hr, he⟩ := h
      simp only [Option.some.injEq, Prod.mk.injEq] at he
      have := ih (he.2 ▸ hr)
      simp only [List.length_cons]
      omega

/-- The first unit of a pair that together stands for one character. -/
def isLeading (n : Nat) : Bool :=
  0xd800 ≤ n && n < 0xdc00

/-- The second unit of such a pair. -/
def isTrailing (n : Nat) : Bool :=
  0xdc00 ≤ n && n < 0xe000

/-- Joins the pieces to a text. There is none if half of a pair stands alone. -/
def join? : List Piece → Option (List Char)
  | [] => some []
  | .char c :: rest => (join? rest).map (c :: ·)
  | [.unit n] => if isLeading n || isTrailing n then none else some [Char.ofNat n]
  | .unit n :: .char c :: rest =>
      if isLeading n || isTrailing n then none
      else (join? rest).map (Char.ofNat n :: c :: ·)
  | .unit n :: .unit m :: rest =>
      if isTrailing n then none
      else if isLeading n then
        if isTrailing m then
          (join? rest).map (Char.ofNat (0x10000 + (n - 0xd800) * 0x400 + (m - 0xdc00)) :: ·)
        else none
      else (join? (.unit m :: rest)).map (Char.ofNat n :: ·)

/-- Reads a quoted string off the front of a text, the opening quote already taken. -/
def read? (text : List Char) : Option (List Char × List Char) := do
  let (pieces, after) ← pieces? text
  let joined ← join? pieces
  pure (joined, after)

/-- The text that a quoted string stands for, if it is one and nothing follows it. -/
def decode? : List Char → Option (List Char)
  | '"' :: rest =>
      match read? rest with
      | some (text, []) => some text
      | _ => none
  | _ => none

end GrpcMock.Text.Quoted

namespace GrpcMock.Text

/-- A text in quotes, as JSON and Go write it. -/
def quote (text : String) : String :=
  String.ofList (Quoted.encode text.toList)

/-- Reads a text in quotes that holds nothing else. -/
def unquote? (text : String) : Option String :=
  (Quoted.decode? text.toList).map String.ofList

end GrpcMock.Text
