import GrpcMock.Text.Quoted
import GrpcMock.Yaml.Cursor

/-!
Tags, which name the type of a node. A tag is written with a handle that stands for the beginning of
its name, or as its whole name between angle brackets.
-/

namespace GrpcMock.Yaml

open GrpcMock.Text.Quoted (hexValue?)

/-- A tag as it is written: a handle, which may be empty, and the rest of the name. -/
structure WrittenTag where
  handle : List Char
  suffix : List Char
  deriving DecidableEq, Repr

/-- What a handle stands for. -/
structure TagDirective where
  handle : List Char
  start : List Char
  deriving DecidableEq, Repr

/-- The handles that stand for something without being declared. -/
def standardDirectives : List TagDirective :=
  [⟨"!".toList, "!".toList⟩, ⟨"!!".toList, "tag:yaml.org,2002:".toList⟩]

/-- The characters that the name of a tag may hold as they are; some only where they cannot be taken
for the end of a bracket. -/
def isTagChar (isApart : Bool) (c : Char) : Bool :=
  isNameChar c || ";/?:@&=+$.!~*'()".toList.contains c || (isApart && ",[]".toList.contains c)

/-- How many bytes a character has that begins with a byte. -/
def utf8Width? (b : Nat) : Option Nat :=
  if b < 0x80 then some 1
  else if b / 0x20 = 6 then some 2
  else if b / 0x10 = 14 then some 3
  else if b / 0x08 = 30 then some 4
  else none

/-- Reads the name of a tag. A byte can be given by two hexadecimal digits after a percent sign;
`more` tells how many bytes of its character are still to come. -/
def readTagName (isApart : Bool) (more : Nat) : List Char → Option (List Char × List Char)
  | '%' :: a :: b :: rest => do
      let high ← hexValue? a
      let low ← hexValue? b
      let byte := 16 * high + low
      let more ←
        if more = 0 then (utf8Width? byte).map (· - 1)
        else if byte / 0x40 = 2 then some (more - 1)
        else none
      let (name, after) ← readTagName isApart more rest
      pure (Char.ofNat byte :: name, after)
  | [] => if more = 0 then some ([], []) else none
  | c :: rest =>
      if more ≠ 0 ∨ c = '%' then none
      else if isTagChar isApart c then do
        let (name, after) ← readTagName isApart 0 rest
        pure (c :: name, after)
      else some ([], c :: rest)

/-- Reads a handle, its exclamation mark already taken: name characters and perhaps another mark. -/
def readHandle (text : List Char) : List Char × List Char :=
  let name := text.takeWhile isNameChar
  match text.dropWhile isNameChar with
  | '!' :: rest => ('!' :: name ++ ['!'], rest)
  | rest => ('!' :: name, rest)

/-- Reads a whole name between angle brackets, the first of which is taken already. -/
def readWholeTag (text : List Char) : Option (WrittenTag × List Char) := do
  let (name, rest) ← readTagName true 0 text
  match name, rest with
  | _ :: _, '>' :: rest => pure (⟨[], name⟩, rest)
  | _, _ => none

/-- Reads a tag with a handle, its exclamation mark already taken. What looks like a handle but does
not end in a mark is part of the name, and a mark alone is a name of its own. -/
def readShortTag (text : List Char) : Option (WrittenTag × List Char) := do
  let (handle, rest) := readHandle text
  if 1 < handle.length ∧ handle.getLast? = some '!' then
    let (suffix, rest) ← readTagName false 0 rest
    if suffix.isEmpty then none else pure (⟨handle, suffix⟩, rest)
  else
    let (suffix, rest) ← readTagName false 0 rest
    match handle.tail ++ suffix with
    | [] => pure (⟨[], ['!']⟩, rest)
    | name => pure (⟨['!'], name⟩, rest)

/-- Reads a tag. White space must follow it, or inside brackets a comma. -/
def readTag (inFlow : Bool) (cursor : Cursor) : Option (WrittenTag × Cursor) := do
  let (tag, rest) ←
    match cursor.rest with
    | '!' :: '<' :: rest => readWholeTag rest
    | _ :: rest => readShortTag rest
    | [] => none
  if startsBlank rest || (inFlow && rest.head? = some ',') then
    pure (tag, cursor.advanceTo rest)
  else none

/-- The name that a tag is short for, unless its handle is not declared. The first declaration of a
handle counts. -/
def WrittenTag.name? (directives : List TagDirective) (tag : WrittenTag) : Option (List Char) :=
  if tag.handle.isEmpty then some tag.suffix
  else
    (directives.find? fun directive => directive.handle == tag.handle).map fun directive =>
      directive.start ++ tag.suffix

end GrpcMock.Yaml
