import GrpcMock.Text.Quoted
import GrpcMock.Yaml.Gap

/-!
Quoted scalars. Between single quotes only the quote itself is written in a special way, twice;
between double quotes a backslash begins an escape, and at the end of a line it joins the line to
the next.
-/

namespace GrpcMock.Yaml

open GrpcMock.Text.Quoted (hexValue?)

/-- The piece of a single-quoted scalar up to white space or the closing quote. -/
def singleWord : List Char → List Char × List Char
  | '\'' :: '\'' :: rest =>
      let (word, after) := singleWord rest
      ('\'' :: word, after)
  | [] => ([], [])
  | c :: rest =>
      if c = '\'' || isBlank c || isBreak c then ([], c :: rest)
      else
        let (word, after) := singleWord rest
        (c :: word, after)

/-- The character that an escape of one letter stands for. -/
def escapedChar? (c : Char) : Option Char :=
  match c with
  | '0' => some (Char.ofNat 0)
  | 'a' => some '\x07'
  | 'b' => some '\x08'
  | 't' => some '\t'
  | '\t' => some '\t'
  | 'n' => some '\n'
  | 'v' => some '\x0b'
  | 'f' => some '\x0c'
  | 'r' => some '\r'
  | 'e' => some '\x1b'
  | ' ' => some ' '
  | '"' => some '"'
  | '/' => some '/'
  | '\\' => some '\\'
  | 'N' => some '\x85'
  | '_' => some '\xa0'
  | 'L' => some '\u2028'
  | 'P' => some '\u2029'
  | _ => none

/-- The character with a number written in hexadecimal digits. -/
def numberedChar? (digits : List Char) : Option Char := do
  let values ← digits.mapM hexValue?
  let number := values.foldl (fun n digit => 16 * n + digit) 0
  if number < 0x110000 ∧ ¬(0xd800 ≤ number ∧ number < 0xe000) then some (Char.ofNat number)
  else none

/-- The piece of a double-quoted scalar up to white space, the closing quote or an escaped line
break. -/
def doubleWord : List Char → Option (List Char × List Char)
  | [] => some ([], [])
  | '\\' :: 'x' :: a :: b :: rest => do
      let char ← numberedChar? [a, b]
      let (word, after) ← doubleWord rest
      pure (char :: word, after)
  | '\\' :: 'u' :: a :: b :: c :: d :: rest => do
      let char ← numberedChar? [a, b, c, d]
      let (word, after) ← doubleWord rest
      pure (char :: word, after)
  | '\\' :: 'U' :: a :: b :: c :: d :: e :: f :: g :: h :: rest => do
      let char ← numberedChar? [a, b, c, d, e, f, g, h]
      let (word, after) ← doubleWord rest
      pure (char :: word, after)
  | '\\' :: c :: rest =>
      if isBreak c then some ([], '\\' :: c :: rest)
      else do
        let char ← escapedChar? c
        let (word, after) ← doubleWord rest
        pure (char :: word, after)
  | c :: rest =>
      if c = '\\' then none
      else if c = '"' || isBlank c || isBreak c then some ([], c :: rest)
      else do
        let (word, after) ← doubleWord rest
        pure (c :: word, after)

/-- The piece of a quoted scalar up to something that is not part of a word. -/
def quotedWord (quote : Char) (text : List Char) : Option (List Char × List Char) :=
  if quote = '"' then doubleWord text else some (singleWord text)

/-- Reads on from a place inside a quoted scalar, and takes the closing quote. -/
def readQuotedFrom (quote : Char) (text : List Char) (cursor : Cursor)
    : Option (List Char × Cursor) :=
  if cursor.atDocumentMarker then none
  else
    match quotedWord quote cursor.rest with
    | none => none
    | some (_, []) => none
    | some (word, c :: rest) =>
        let here := cursor.advanceTo (c :: rest)
        if c = quote then some (text ++ word, here.skip 1)
        else
          let gap :=
            if c = '\\' then Gap.escaped.read 0 (here.skip 1).skipBreak
            else Gap.empty.read 0 here
          match gap with
          | none => none
          | some (gap, after) =>
              if after.rest.length < cursor.rest.length then
                readQuotedFrom quote (text ++ word ++ gap.text) after
              else none
termination_by cursor.rest.length

/-- Reads a quoted scalar, which begins with its quote. -/
def readQuoted (quote : Char) (cursor : Cursor) : Option (List Char × Cursor) :=
  readQuotedFrom quote [] (cursor.skip 1)

end GrpcMock.Yaml
