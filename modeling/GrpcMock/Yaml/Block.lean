import GrpcMock.Yaml.Cursor

/-!
Block scalars, the lines of which are told by their indentation. A literal one keeps its line
breaks; a folded one joins lines, except those that begin with white space.
-/

namespace GrpcMock.Yaml

/-- What becomes of the line breaks at the end. -/
inductive Chomping where
  | strip
  /-- Only the first stays. -/
  | clip
  | keep
  deriving DecidableEq, Repr

structure BlockHeader where
  chomping : Chomping
  /-- How much further in than its surroundings the scalar is, if that is said. -/
  indentation : Option Nat

def chomping? (c : Char) : Option Chomping :=
  if c = '+' then some .keep else if c = '-' then some .strip else none

/-- The indentation that a digit gives, which cannot be zero. -/
def indentationDigit? (c : Char) : Option Nat :=
  if '1' ≤ c ∧ c ≤ '9' then some (c.toNat - 0x30) else none

/-- Reads the header of a block scalar, the indicator of which is taken already. -/
def readBlockHeader (text : List Char) : BlockHeader × List Char :=
  match text with
  | [] => (⟨.clip, none⟩, [])
  | a :: rest =>
      let second := rest.head?
      match chomping? a, indentationDigit? a with
      | some chomping, _ =>
          match second.bind indentationDigit? with
          | some digit => (⟨chomping, some digit⟩, rest.tail)
          | none => (⟨chomping, none⟩, rest)
      | none, some digit =>
          match second.bind chomping? with
          | some chomping => (⟨chomping, some digit⟩, rest.tail)
          | none => (⟨.clip, some digit⟩, rest)
      | none, none => (⟨.clip, none⟩, a :: rest)

/-- Passes over indentation and empty lines, and returns what the empty lines stand for and how far
in the deepest of them was. As long as the indentation of the scalar is not known, any will do; a
tab may not be part of it. -/
def readIndentation (indentation : Option Nat) (deepest : Nat) (breaks : List Char)
    (cursor : Cursor) : Option (Nat × List Char × Cursor) :=
  let deepest := max deepest cursor.column
  match h : cursor.rest with
  | [] => some (deepest, breaks, cursor)
  | c :: _ =>
      have := Cursor.skip_length h
      have := Cursor.skipBreak_length h
      let isInside := indentation.all (cursor.column < ·)
      if c = ' ' && isInside then readIndentation indentation deepest breaks (cursor.skip 1)
      else if c = '\t' && isInside then none
      else if isBreak c then
        readIndentation indentation deepest (breaks ++ breakText cursor.rest) cursor.skipBreak
      else some (deepest, breaks, cursor)
termination_by cursor.rest.length

/-- The lines of a block scalar read so far. -/
structure BlockText where
  text : List Char
  /-- The end of the last line. -/
  lineEnd : List Char
  /-- The empty lines after it. -/
  emptyLines : List Char
  /-- The last line began with white space. -/
  wasIndented : Bool

namespace BlockText

/-- The text with the line breaks before a line. -/
def joined (block : BlockText) (isFolded isIndented : Bool) : List Char :=
  if isFolded && block.lineEnd = ['\n'] && !block.wasIndented && !isIndented then
    block.text ++ (if block.emptyLines.isEmpty then [' '] else block.emptyLines)
  else block.text ++ block.lineEnd ++ block.emptyLines

def chomped (block : BlockText) : Chomping → List Char
  | .strip => block.text
  | .clip => block.text ++ block.lineEnd
  | .keep => block.text ++ block.lineEnd ++ block.emptyLines

end BlockText

/-- Reads lines as long as they have the indentation of the scalar. -/
def readBlockLines (isFolded : Bool) (indentation : Nat) (block : BlockText) (cursor : Cursor)
    : Option (BlockText × Cursor) :=
  match cursor.rest with
  | [] => some (block, cursor)
  | c :: _ =>
      if cursor.column ≠ indentation then some (block, cursor)
      else
        let line := cursor.rest.takeWhile (!isBreak ·)
        let lineEnd := cursor.skipLine
        let text := block.joined isFolded (isBlank c) ++ line
        let next := if lineEnd.rest.isEmpty then lineEnd else lineEnd.skipBreak
        match readIndentation (some indentation) 0 [] next with
        | none => none
        | some (_, emptyLines, after) =>
            if after.rest.length < cursor.rest.length then
              readBlockLines isFolded indentation
                ⟨text, breakText lineEnd.rest, emptyLines, isBlank c⟩ after
            else none
termination_by cursor.rest.length

/-- Reads a block scalar, which begins with its indicator; its surroundings have an indentation. -/
def readBlock (isFolded : Bool) (outer : Int) (cursor : Cursor) : Option (List Char × Cursor) := do
  let cursor := cursor.skip 1
  let (header, rest) := readBlockHeader cursor.rest
  let cursor ← (cursor.advanceTo rest).endLine?
  let given := header.indentation.map fun digit => (max outer 0).toNat + digit
  let (deepest, emptyLines, cursor) ← readIndentation given 0 [] cursor
  let indentation := given.getD (max (max deepest (outer + 1).toNat) 1)
  let (block, cursor) ← readBlockLines isFolded indentation ⟨[], [], emptyLines, false⟩ cursor
  pure (block.chomped header.chomping, cursor)

end GrpcMock.Yaml
