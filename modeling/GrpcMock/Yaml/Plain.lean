import GrpcMock.Yaml.Gap

/-!
Plain scalars, which have no quotes. One ends before a comment, before a colon with white space
behind it, where the indentation ends it, and inside brackets also before a comma or a bracket.
-/

namespace GrpcMock.Yaml

/-- Whether a character has a meaning of its own inside brackets. -/
def isFlowIndicator (c : Char) : Bool :=
  c = ',' || c = '[' || c = ']' || c = '{' || c = '}'

/-- The longest piece of a plain scalar without white space, and what follows it. Inside brackets no
colon may stand right before a bracket, a comma or a question mark. -/
def plainWord (inFlow : Bool) : List Char → Option (List Char × List Char)
  | [] => some ([], [])
  | c :: rest =>
      if isBlank c || isBreak c then some ([], c :: rest)
      else if inFlow && c = ':' && rest.head?.any fun c => isFlowIndicator c || c = '?' then none
      else if c = ':' && startsBlank rest then some ([], c :: rest)
      else if inFlow && isFlowIndicator c then some ([], c :: rest)
      else do
        let (word, after) ← plainWord inFlow rest
        pure (c :: word, after)

/-- A scalar that was read, and whether it was followed by the end of a line. -/
structure PlainScalar where
  text : List Char
  endsLine : Bool

/-- Reads on from a place inside a plain scalar; `gap` is the white space before that place. -/
def readPlainFrom (inFlow : Bool) (margin : Int) (text : List Char) (gap : Gap) (cursor : Cursor)
    : Option (PlainScalar × Cursor) :=
  if cursor.atDocumentMarker || cursor.rest.head? = some '#' then
    some (⟨text, gap.hasBreak⟩, cursor)
  else
    match plainWord inFlow cursor.rest with
    | none => none
    | some ([], _) => some (⟨text, gap.hasBreak⟩, cursor)
    | some (word, rest) =>
        let text := text ++ gap.text ++ word
        if !rest.head?.any fun c => isBlank c || isBreak c then
          some (⟨text, false⟩, cursor.advanceTo rest)
        else
          match Gap.empty.read margin (cursor.advanceTo rest) with
          | none => none
          | some (gap, after) =>
              if !inFlow && after.column < margin then some (⟨text, gap.hasBreak⟩, after)
              else if after.rest.length < cursor.rest.length then
                readPlainFrom inFlow margin text gap after
              else none
termination_by cursor.rest.length

/-- Reads a plain scalar; the lines after the first must not be left of the margin. -/
def readPlain (inFlow : Bool) (margin : Int) (cursor : Cursor) : Option (PlainScalar × Cursor) :=
  readPlainFrom inFlow margin [] .empty cursor

end GrpcMock.Yaml
