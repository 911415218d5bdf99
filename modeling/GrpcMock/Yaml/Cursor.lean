import GrpcMock.Text.Bytes

/-!
Places in a YAML text. Unlike other readers here, a place knows its column, because indentation
tells which parts of the text belong together.
-/

namespace GrpcMock.Yaml

open GrpcMock.Text (byteCount)

def isBlank (c : Char) : Bool :=
  c = ' ' || c = '\t'

/-- The characters that end a line; a return and a feed together end one line. -/
def isBreak (c : Char) : Bool :=
  c = '\n' || c = '\r' || c = '\x85' || c = '\u2028' || c = '\u2029'

/-- A character of the name of an anchor, a directive or a tag handle. -/
def isNameChar (c : Char) : Bool :=
  c.isAlphanum || c = '_' || c = '-'

/-- Whether a text may hold a character at all. Most control characters are out. -/
def isAllowed (c : Char) : Bool :=
  let n := c.toNat
  n = 0x9 || n = 0xa || n = 0xd || (0x20 ≤ n && n ≤ 0x7e) || n = 0x85
    || (0xa0 ≤ n && n ≤ 0xfffd) || 0x10000 ≤ n

/-- Whether a text goes on with white space, or not at all. -/
def startsBlank (text : List Char) : Bool :=
  text.head?.all fun c => isBlank c || isBreak c

/-- What the line break at the front of a text stands for. -/
def breakText : List Char → List Char
  | [] => []
  | c :: _ => if c = '\u2028' || c = '\u2029' then [c] else ['\n']

/-- What is left of a text, and where that begins; lines and columns count from zero. -/
structure Cursor where
  rest : List Char
  line : Nat
  /-- How many characters of the line came before. -/
  column : Nat
  /-- How many bytes of the text came before. -/
  offset : Nat

namespace Cursor

def start (text : List Char) : Cursor := ⟨text, 0, 0, 0⟩

/-- Passes over characters that do not end the line. -/
def skip (cursor : Cursor) (count : Nat) : Cursor :=
  { cursor with
    rest := cursor.rest.drop count, column := cursor.column + count,
    offset := cursor.offset + byteCount (cursor.rest.take count) }

/-- Goes on to a later place of the same line. -/
def advanceTo (cursor : Cursor) (rest : List Char) : Cursor :=
  { cursor.skip (cursor.rest.length - rest.length) with rest }

/-- Passes over the end of a line. -/
def skipBreak (cursor : Cursor) : Cursor :=
  match cursor.rest with
  | '\r' :: '\n' :: rest => ⟨rest, cursor.line + 1, 0, cursor.offset + 2⟩
  | rest => ⟨rest.tail, cursor.line + 1, 0, cursor.offset + byteCount (rest.take 1)⟩

/-- Passes over the rest of a line, but not over its end. -/
def skipLine (cursor : Cursor) : Cursor :=
  cursor.advanceTo (cursor.rest.dropWhile (!isBreak ·))

def skipBlanks (cursor : Cursor) : Cursor :=
  cursor.advanceTo (cursor.rest.dropWhile isBlank)

/-- Whether a line begins with three of a character that have nothing behind them. -/
def atMarker (cursor : Cursor) (c : Char) : Bool :=
  cursor.column = 0 && [c, c, c].isPrefixOf cursor.rest && startsBlank (cursor.rest.drop 3)

/-- Whether a document begins or ends here. -/
def atDocumentMarker (cursor : Cursor) : Bool :=
  cursor.atMarker '-' || cursor.atMarker '.'

theorem skip_length {cursor : Cursor} {c : Char} {rest : List Char} (h : cursor.rest = c :: rest)
    : (cursor.skip 1).rest.length < cursor.rest.length := by
  simp [skip, h]

theorem skipBreak_length {cursor : Cursor} {c : Char} {rest : List Char}
    (h : cursor.rest = c :: rest)
    : cursor.skipBreak.rest.length < cursor.rest.length := by
  unfold skipBreak
  split
  · rename_i hr
    simp only [hr, List.length_cons]
    omega
  · simp [h]

/-- Passes over a comment, if there is one, and then over the end of the line, which must come next
unless the text ends. -/
def endLine? (cursor : Cursor) : Option Cursor :=
  let cursor := cursor.skipBlanks
  let cursor := if cursor.rest.head? = some '#' then cursor.skipLine else cursor
  match cursor.rest with
  | [] => some cursor
  | c :: _ => if isBreak c then some cursor.skipBreak else none

end Cursor

end GrpcMock.Yaml
