import GrpcMock.Decimal.Numeral
import GrpcMock.Document
import GrpcMock.Text.Quoted

/-!
What scalars stand for where no type is asked for. A scalar without quotes may be a null, a boolean
or a number; one with quotes is a text, unless a tag says otherwise.
-/

namespace GrpcMock.Yaml

open GrpcMock.Binary (Format)
open GrpcMock.Decimal (Range)
open GrpcMock.Text.Quoted (hexValue?)

namespace Scalar

def isNull (text : String) : Bool :=
  ["null", "Null", "NULL", "~"].contains text

def bool? (text : String) : Option Bool :=
  if ["true", "True", "TRUE"].contains text then some true
  else if ["false", "False", "FALSE"].contains text then some false
  else none

/-- Reads a whole text of one or more digits of a base up to sixteen. -/
def readDigits? (base : Nat) (text : List Char) : Option Nat := do
  let values ← text.mapM hexValue?
  if values.isEmpty || values.any (base ≤ ·) then none
  else some (values.foldl (fun n digit => base * n + digit) 0)

/-- A text without its sign, if it begins with one. -/
def unsigned : List Char → List Char
  | '+' :: rest => rest
  | '-' :: rest => rest
  | text => text

/-- Whether a text without sign is all digits and yet no number, because it begins with a zero that
is not all of it. -/
def isPadded (text : List Char) : Bool :=
  text.all Char.isDigit && text.head? = some '0' && text.length ≠ 1

/-- Reads a whole number without sign. -/
def readMagnitude? (text : List Char) : Option Nat :=
  match text with
  | '0' :: 'x' :: digits => readDigits? 16 digits
  | '0' :: 'o' :: digits => readDigits? 8 digits
  | '0' :: 'b' :: digits => readDigits? 2 digits
  | digits => if isPadded digits then none else readDigits? 10 digits

/-- Reads a whole number. One of more than 128 bits is not taken for a whole number. -/
def readInteger? (text : List Char) : Option Int :=
  let value : Option Int :=
    match text with
    | '-' :: _ => (readMagnitude? (unsigned text)).map fun n => -Int.ofNat n
    | _ => (readMagnitude? (unsigned text)).map Int.ofNat
  value.filter fun n => Range.int128.holds n || Range.uint128.holds n

/-- What a whole number stands for, which is nothing if it needs more than 64 bits. -/
def integer? (n : Int) : Option Json :=
  if Range.int64.holds n || Range.uint64.holds n then some (.number (.integer n)) else none

def isFinite (bits : Nat) : Bool :=
  match Format.double.decode bits with
  | .finite _ _ _ => true
  | _ => false

/-- What a number with a fraction stands for. There is no number for what is not finite, and null
takes its place. -/
def float? (text : List Char) : Option Json :=
  let magnitude := if text.head? = some '+' then text.tail else text
  let isSigned := magnitude.head?.any fun c => c = '+' || c = '-'
  if text.head? = some '+' && isSigned then none
  else if [".inf", ".Inf", ".INF"].contains (String.ofList magnitude)
      || ["-.inf", "-.Inf", "-.INF", ".nan", ".NaN", ".NAN"].contains (String.ofList text) then
    some .null
  else
    ((Decimal.readBits? .double magnitude).filter isFinite).map fun bits => .number (.double bits)

/-- What a scalar without quotes and without a tag stands for. -/
def plainMeaning (text : String) : Option Json :=
  if text.isEmpty || isNull text then some .null
  else
    match bool? text, readInteger? text.toList with
    | some value, _ => some (.bool value)
    | none, some n => integer? n
    | none, none =>
        if isPadded (unsigned text.toList) then some (.string text)
        else some ((float? text.toList).getD (.string text))

/-- What a scalar with a tag stands for. Nothing does if it is not of the type that the tag names,
or if the tag is not one that all texts share. -/
def taggedMeaning (tag text : String) : Option Json :=
  if tag.toList.head? = some '!' then none
  else if tag = "tag:yaml.org,2002:bool" then (bool? text).map .bool
  else if tag = "tag:yaml.org,2002:int" then (readInteger? text.toList).bind integer?
  else if tag = "tag:yaml.org,2002:float" then float? text.toList
  else if tag = "tag:yaml.org,2002:null" then if isNull text then some .null else none
  else some (.string text)

def meaning (tag : Option String) (isPlain : Bool) (text : String) : Option Json :=
  match tag with
  | some tag => taggedMeaning tag text
  | none => if isPlain then plainMeaning text else some (.string text)

/-- The document of a scalar. -/
def toDocument (tag : Option String) (isPlain : Bool) (text : String) : Document :=
  if isPlain && text.isEmpty then .absent (meaning tag isPlain text)
  else .text text (meaning tag isPlain text)

end Scalar

end GrpcMock.Yaml
