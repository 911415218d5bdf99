/-!
Base64 with padding. A text is accepted only if it is the one text that writes its bytes: padded to
a multiple of four, with no bit set that belongs to no byte. Every refusal names its place.
-/

namespace GrpcMock.Base64

/-- The symbols for 62 and 63; letters and digits stand for the other values in every alphabet. -/
structure Alphabet where
  symbol62 : UInt8
  symbol63 : UInt8
  deriving DecidableEq, Repr

/-- The alphabet with `+` and `/`. -/
def Alphabet.standard : Alphabet := ⟨43, 47⟩

/-- The alphabet with `-` and `_`, which need no escape in a URL. -/
def Alphabet.urlSafe : Alphabet := ⟨45, 95⟩

def Alphabet.value? (alphabet : Alphabet) (b : UInt8) : Option Nat :=
  if 65 ≤ b ∧ b ≤ 90 then some (b.toNat - 65)
  else if 97 ≤ b ∧ b ≤ 122 then some (b.toNat - 97 + 26)
  else if 48 ≤ b ∧ b ≤ 57 then some (b.toNat - 48 + 52)
  else if b = alphabet.symbol62 then some 62
  else if b = alphabet.symbol63 then some 63
  else none

def Alphabet.symbol (alphabet : Alphabet) (value : Nat) : UInt8 :=
  if value < 26 then UInt8.ofNat (65 + value)
  else if value < 52 then UInt8.ofNat (97 + (value - 26))
  else if value < 62 then UInt8.ofNat (48 + (value - 52))
  else if value = 62 then alphabet.symbol62
  else alphabet.symbol63

/-- The padding symbol. -/
def pad : UInt8 := 61

/-- Writes bytes, three to a group of four symbols. -/
def encode (alphabet : Alphabet) : List UInt8 → List UInt8
  | [] => []
  | [a] =>
      let n := a.toNat
      [alphabet.symbol (n / 4), alphabet.symbol (n % 4 * 16), pad, pad]
  | [a, b] =>
      let n := a.toNat * 256 + b.toNat
      [alphabet.symbol (n / 1024), alphabet.symbol (n / 16 % 64), alphabet.symbol (n % 16 * 4), pad]
  | a :: b :: c :: rest =>
      let n := (a.toNat * 256 + b.toNat) * 256 + c.toNat
      alphabet.symbol (n / 262144) :: alphabet.symbol (n / 4096 % 64)
        :: alphabet.symbol (n / 64 % 64) :: alphabet.symbol (n % 64) :: encode alphabet rest

/-- Why a text is refused. -/
inductive Fault where
  | invalidByte (byte : UInt8) (offset : Nat)
  | strayLength
  | invalidPadding
  | invalidLastSymbol (byte : UInt8) (offset : Nat)
  deriving DecidableEq, Repr

def Fault.message : Fault → String
  | .invalidByte byte offset => s!"Invalid byte {byte}, offset {offset}."
  | .strayLength => "Encoded text cannot have a 6-bit remainder."
  | .invalidPadding => "Invalid padding"
  | .invalidLastSymbol byte offset => s!"Invalid last symbol {byte}, offset {offset}."

/-- The values of symbols that start at an offset; a byte outside the alphabet is refused, and so is
padding. -/
def symbolValues (alphabet : Alphabet) (offset : Nat) : List UInt8 → Except Fault (List Nat)
  | [] => .ok []
  | b :: rest =>
      match alphabet.value? b with
      | none => .error (.invalidByte b offset)
      | some value => (symbolValues alphabet (offset + 1) rest).map (value :: ·)

/-- What a scan of the last chunk has seen: where its padding began, and how much of it there is. -/
structure Padding where
  first : Option Nat
  count : Nat

/-- The values of the last chunk, which starts at `start` and of which `index` bytes are read, with
the number of padding symbols at its end. -/
def lastValues (alphabet : Alphabet) (start index : Nat) (padding : Padding) :
    List UInt8 → Except Fault (List Nat × Nat)
  | [] => .ok ([], padding.count)
  | b :: rest =>
      if b = pad then
        if index % 4 < 2 then .error (.invalidByte pad (padding.first.getD (start + index)))
        else
          lastValues alphabet start (index + 1)
            ⟨some (padding.first.getD index), padding.count + 1⟩ rest
      else
        match padding.first with
        | some first => .error (.invalidByte pad (start + first))
        | none =>
            match alphabet.value? b with
            | none => .error (.invalidByte b (start + index))
            | some value =>
                (lastValues alphabet start (index + 1) padding rest).map fun (values, count) =>
                  (value :: values, count)

/-- The bytes that a run of symbol values holds, and the bits left over at its end. -/
def regroup : List Nat → List UInt8 × Nat
  | a :: b :: c :: d :: rest =>
      let n := ((a * 64 + b) * 64 + c) * 64 + d
      let (bytes, left) := regroup rest
      let group := [UInt8.ofNat (n / 65536), UInt8.ofNat (n / 256 % 256), UInt8.ofNat (n % 256)]
      (group ++ bytes, left)
  | [a, b, c] =>
      let n := (a * 64 + b) * 64 + c
      ([UInt8.ofNat (n / 1024), UInt8.ofNat (n / 4 % 256)], n % 4)
  | [a, b] =>
      let n := a * 64 + b
      ([UInt8.ofNat (n / 16)], n % 16)
  | _ => ([], 0)

/-- Reads a text. Its last chunk of at most eight bytes is the only one that may hold padding. -/
def decode (alphabet : Alphabet) (text : List UInt8) : Except Fault (List UInt8) := do
  let size := text.length
  if size % 4 = 1 then
    let last := text.getLast?.getD pad
    if last = pad ∨ (alphabet.value? last).isSome then throw .strayLength
    else throw (.invalidByte last (size - 1))
  let start := 8 * ((size - 1) / 8)
  let whole ← symbolValues alphabet 0 (text.take start)
  let (tail, padding) ← lastValues alphabet start 0 ⟨none, 0⟩ (text.drop start)
  if (tail.length + padding) % 4 ≠ 0 then throw .invalidPadding
  let (bytes, left) := regroup (whole ++ tail)
  if left ≠ 0 then
    let offset := start + tail.length - 1
    throw (.invalidLastSymbol (text.getD offset pad) offset)
  pure bytes

/-- Reads a text in either alphabet. A text that neither can read is refused for what is wrong with
it in the URL-safe one. -/
def decodeEither (text : List UInt8) : Except Fault (List UInt8) :=
  match decode .standard text with
  | .ok bytes => .ok bytes
  | .error _ => decode .urlSafe text

end GrpcMock.Base64
