import GrpcMock.Yaml.Tag

/-!
The tokens of a YAML text. Indentation shows in them as collections that begin and end, so the
structure of a text can be read off its tokens alone.
-/

namespace GrpcMock.Yaml

inductive Token where
  | versionDirective (major minor : Nat)
  | tagDirective (directive : TagDirective)
  | documentStart
  | documentEnd
  | blockSequenceStart
  | blockMappingStart
  | blockEnd
  | flowSequenceStart
  | flowSequenceEnd
  | flowMappingStart
  | flowMappingEnd
  | flowEntry
  | blockEntry
  | key
  | value
  | alias (name : List Char)
  | anchor (name : List Char)
  | tag (tag : WrittenTag)
  | scalar (isPlain : Bool) (text : List Char)
  deriving DecidableEq, Repr

/-- Reads a number of at most nine digits. -/
def readVersionNumber (text : List Char) : Option (Nat × List Char) :=
  let digits := text.takeWhile Char.isDigit
  if digits.isEmpty ∨ 9 < digits.length then none
  else
    some (digits.foldl (fun n c => 10 * n + (c.toNat - 0x30)) 0, text.dropWhile Char.isDigit)

/-- Reads the version that a text claims to be written in. -/
def readVersion (text : List Char) : Option (Token × List Char) := do
  let (major, rest) ← readVersionNumber (text.dropWhile isBlank)
  match rest with
  | '.' :: rest =>
      let (minor, rest) ← readVersionNumber rest
      pure (.versionDirective major minor, rest)
  | _ => none

/-- Reads what a handle is declared to stand for. -/
def readTagDeclaration (text : List Char) : Option (Token × List Char) :=
  match text.dropWhile isBlank with
  | '!' :: rest => do
      let (handle, rest) := readHandle rest
      if handle ≠ ['!'] ∧ handle.getLast? ≠ some '!' then none
      if !rest.head?.any isBlank then none
      let (start, rest) ← readTagName true 0 (rest.dropWhile isBlank)
      if start.isEmpty || !startsBlank rest then none
      pure (.tagDirective ⟨handle, start⟩, rest)
  | _ => none

/-- Reads a directive with the end of its line. -/
def readDirective (cursor : Cursor) : Option (Token × Cursor) := do
  let text := cursor.rest.tail
  let name := text.takeWhile isNameChar
  let rest := text.dropWhile isNameChar
  if !startsBlank rest then none
  let (token, rest) ←
    if name = "YAML".toList then readVersion rest
    else if name = "TAG".toList then readTagDeclaration rest
    else none
  let after ← (cursor.advanceTo rest).endLine?
  pure (token, after)

/-- Reads the name of an anchor, the indicator of which is taken already. -/
def readAnchorName (text : List Char) : Option (List Char × List Char) :=
  let name := text.takeWhile isNameChar
  let rest := text.dropWhile isNameChar
  let ends := startsBlank rest || rest.head?.any fun c => "?:,]\x7d%@\x60".toList.contains c
  if name.isEmpty || !ends then none else some (name, rest)

end GrpcMock.Yaml
