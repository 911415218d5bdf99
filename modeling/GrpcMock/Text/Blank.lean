import GrpcMock.Text.CodeRange

/-!
White space as Unicode defines it, with the two things that are done with it: cutting it off both
ends of a text, and cutting a text into its words.
-/

namespace GrpcMock.Text

/-- The characters with the Unicode property White_Space. -/
def blankRanges : List CodeRange :=
  [
    (0x9, 0xd), (0x20, 0x20), (0x85, 0x85), (0xa0, 0xa0), (0x1680, 0x1680), (0x2000, 0x200a),
    (0x2028, 0x2029), (0x202f, 0x202f), (0x205f, 0x205f), (0x3000, 0x3000)
  ]

def isBlank (c : Char) : Bool :=
  inRanges blankRanges c

/-- Drops white space from both ends. -/
def trimBlanks (text : List Char) : List Char :=
  ((text.dropWhile isBlank).reverse.dropWhile isBlank).reverse

/-- Cuts a text at its white space; `current` holds the word under way, last character first. -/
def wordsFrom (current : List Char) : List Char → List (List Char)
  | [] => if current.isEmpty then [] else [current.reverse]
  | c :: rest =>
      if isBlank c then
        if current.isEmpty then wordsFrom [] rest else current.reverse :: wordsFrom [] rest
      else wordsFrom (c :: current) rest

/-- The longest pieces of a text that hold no white space. -/
def words (text : List Char) : List (List Char) :=
  wordsFrom [] text

/-- The words of a text with single spaces between them, which never breaks a line. -/
def singleLine (text : String) : String :=
  " ".intercalate ((words text.toList).map String.ofList)

end GrpcMock.Text
