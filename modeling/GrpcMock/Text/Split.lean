/-!
Cutting a text at a separator. There is always one piece more than there are separators, so an empty
text has one empty piece.
-/

namespace GrpcMock.Text

def splitChars (separator : Char) : List Char → List (List Char)
  | [] => [[]]
  | c :: rest =>
      if c = separator then [] :: splitChars separator rest
      else
        match splitChars separator rest with
        | [] => [[c]]
        | first :: more => (c :: first) :: more

def split (separator : Char) (text : String) : List String :=
  (splitChars separator text.toList).map String.ofList

/-- What follows the last separator, which is everything if there is none. -/
def afterLast (separator : Char) (text : String) : String :=
  (split separator text).getLast?.getD ""

/-- What stands before and after the first separator, if there is one. -/
def splitFirst? (separator : Char) (text : String) : Option (String × String) :=
  let before := text.toList.takeWhile (· != separator)
  match text.toList.dropWhile (· != separator) with
  | [] => none
  | _ :: after => some (String.ofList before, String.ofList after)

/-- What stands before the last separator, if there is one. -/
def beforeLast? (separator : Char) (text : String) : Option String :=
  match text.toList.reverse.dropWhile (· != separator) with
  | [] => none
  | _ :: before => some (String.ofList before.reverse)

/-- What is left of a text after a beginning that it has. -/
def stripStart? (start text : String) : Option String :=
  (start.toList.isPrefixOf? text.toList).map String.ofList

end GrpcMock.Text
