import GrpcMock.Yaml.Cursor

/-!
The white space inside a scalar that runs over several lines. Within a line it stays as it is; a
single line break becomes a space, and of several the first is dropped.
-/

namespace GrpcMock.Yaml

structure Gap where
  /-- The white space before the first line break, if there is no line break. -/
  blanks : List Char
  /-- What the line breaks stand for. -/
  breaks : List (List Char)

namespace Gap

def empty : Gap := ⟨[], []⟩

/-- The gap after a line break that was escaped, which stands for nothing. -/
def escaped : Gap := ⟨[], [[]]⟩

def hasBreak (gap : Gap) : Bool :=
  !gap.breaks.isEmpty

def text (gap : Gap) : List Char :=
  match gap.breaks with
  | [] => gap.blanks
  | first :: more =>
      if first ≠ ['\n'] then first ++ more.flatten
      else if more.isEmpty then [' ']
      else more.flatten

/-- Reads white space to its end. After a line break no tab may stand left of the margin. -/
def read (margin : Int) (gap : Gap) (cursor : Cursor) : Option (Gap × Cursor) :=
  match h : cursor.rest with
  | [] => some (gap, cursor)
  | c :: _ =>
      have := Cursor.skip_length h
      have := Cursor.skipBreak_length h
      if isBlank c then
        if !gap.hasBreak then read margin { gap with blanks := gap.blanks ++ [c] } (cursor.skip 1)
        else if c = '\t' ∧ cursor.column < margin then none
        else read margin gap (cursor.skip 1)
      else if isBreak c then
        read margin ⟨[], gap.breaks ++ [breakText cursor.rest]⟩ cursor.skipBreak
      else some (gap, cursor)
termination_by cursor.rest.length

end Gap

end GrpcMock.Yaml
