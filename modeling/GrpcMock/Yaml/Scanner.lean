import GrpcMock.Yaml.Block
import GrpcMock.Yaml.Plain
import GrpcMock.Yaml.Quoted
import GrpcMock.Yaml.Token

/-!
Cutting a YAML text into tokens. What was just read may turn out to be a key when a colon follows
it; the tokens that say so are then put in front of it. A key must stand on one line with its colon.
-/

namespace GrpcMock.Yaml

/-- Something that will be a key if a colon follows. -/
structure PossibleKey where
  /-- The indentation leaves nothing else that it could be. -/
  isRequired : Bool
  /-- How many tokens there were before it. -/
  position : Nat
  line : Nat
  column : Nat
  offset : Nat

structure Scanner where
  cursor : Cursor
  /-- The tokens so far, the last first, and how many there are. -/
  tokens : List Token
  count : Nat
  /-- The possible key inside the innermost bracket, and those outside of it, one for each bracket.
  -/
  key : Option PossibleKey
  outerKeys : List (Option PossibleKey)
  /-- Whether a key may begin here. -/
  keyAllowed : Bool
  /-- The column of the innermost block collection, and those of the ones around it. -/
  indentation : Int
  outerIndentations : List Int

namespace Scanner

def start (text : List Char) : Scanner :=
  {
    cursor := .start text,
    tokens := [],
    count := 0,
    key := none,
    outerKeys := [],
    keyAllowed := true,
    indentation := -1,
    outerIndentations := []
  }

/-- Whether a bracket is open. -/
def inFlow (scanner : Scanner) : Bool :=
  !scanner.outerKeys.isEmpty

def emit (token : Token) (scanner : Scanner) : Scanner :=
  { scanner with tokens := token :: scanner.tokens, count := scanner.count + 1 }

/-- Puts a token in front of those from a position on. -/
def insertAt (position : Nat) (token : Token) (scanner : Scanner) : Scanner :=
  { scanner with
    tokens := scanner.tokens.insertIdx (scanner.count - position) token,
    count := scanner.count + 1 }

/-- Takes an indicator of one character. -/
def take (token : Token) (scanner : Scanner) : Scanner :=
  { scanner.emit token with cursor := scanner.cursor.skip 1 }

def allowKey (keyAllowed : Bool) (scanner : Scanner) : Scanner :=
  { scanner with keyAllowed }

/-- Gives up the possible key, unless it must be one. -/
def dropKey (scanner : Scanner) : Option Scanner :=
  if scanner.key.any (·.isRequired) then none else some { scanner with key := none }

/-- Remembers that a key may begin here. -/
def saveKey (scanner : Scanner) : Option Scanner :=
  if !scanner.keyAllowed then some scanner
  else do
    let cursor := scanner.cursor
    let isRequired := !scanner.inFlow && scanner.indentation = cursor.column
    let scanner ← scanner.dropKey
    pure { scanner with
      key := some ⟨isRequired, scanner.count, cursor.line, cursor.column, cursor.offset⟩ }

/-- Whether a key is too far back: on an earlier line, or more than 1024 bytes before. -/
def isStale (cursor : Cursor) (key : PossibleKey) : Bool :=
  key.line < cursor.line || key.offset + 1024 < cursor.offset

/-- Gives up the keys that are too far back, unless one of them must be a key. -/
def dropStaleKeys (scanner : Scanner) : Option Scanner :=
  let keys := scanner.key :: scanner.outerKeys
  if keys.any fun key => key.any fun key => isStale scanner.cursor key && key.isRequired then none
  else
    let fresh (key : Option PossibleKey) := key.filter fun key => !isStale scanner.cursor key
    some { scanner with key := fresh scanner.key, outerKeys := scanner.outerKeys.map fresh }

/-- Closes the block collections that are further in than a column. -/
def closeBlocks (column : Int) (scanner : Scanner) : Scanner :=
  if scanner.inFlow then scanner
  else
    let deeper := (scanner.indentation :: scanner.outerIndentations).takeWhile (column < ·)
    let closed := scanner.outerIndentations.drop (deeper.length - 1)
    if deeper.isEmpty then scanner
    else
      { scanner with
        tokens := List.replicate deeper.length .blockEnd ++ scanner.tokens,
        count := scanner.count + deeper.length,
        indentation := closed.headD (-1),
        outerIndentations := closed.tail }

/-- Opens a block collection at a column, unless one is open there already. Its first token stands
at the position of what it begins with. -/
def openBlock (column : Nat) (position : Nat) (token : Token) (scanner : Scanner) : Scanner :=
  if scanner.inFlow || column ≤ scanner.indentation then scanner
  else
    { scanner.insertAt position token with
      indentation := column,
      outerIndentations := scanner.indentation :: scanner.outerIndentations }

/-- Passes over white space and comments. A tab is no white space where a key may begin, unless
inside brackets. A line may begin with a byte order mark, which takes up a column. -/
def skipToToken (scanner : Scanner) : Scanner :=
  match h : scanner.cursor.rest with
  | [] => scanner
  | c :: _ =>
      have := Cursor.skip_length h
      have := Cursor.skipBreak_length h
      if c = ' ' ∨ (c = '\t' ∧ (scanner.inFlow ∨ ¬scanner.keyAllowed))
          ∨ (c = '\ufeff' ∧ scanner.cursor.column = 0) then
        skipToToken { scanner with cursor := scanner.cursor.skip 1 }
      else if c = '#' then
        if scanner.cursor.skipLine.rest.length < scanner.cursor.rest.length then
          skipToToken { scanner with cursor := scanner.cursor.skipLine }
        else scanner
      else if isBreak c then
        skipToToken { scanner with
          cursor := scanner.cursor.skipBreak, keyAllowed := scanner.keyAllowed || !scanner.inFlow }
      else scanner
termination_by scanner.cursor.rest.length

/-- Closes everything at the end of a document. -/
def endDocument (scanner : Scanner) : Option Scanner := do
  let scanner ← (scanner.closeBlocks (-1)).dropKey
  pure (scanner.allowKey false)

/-- Takes the line of dashes or dots between documents. -/
def takeMarker (token : Token) (scanner : Scanner) : Option Scanner := do
  let scanner ← scanner.endDocument
  pure { scanner.emit token with cursor := scanner.cursor.skip 3 }

def takeDirective (scanner : Scanner) : Option Scanner := do
  let scanner ← scanner.endDocument
  let (token, cursor) ← readDirective scanner.cursor
  pure { scanner.emit token with cursor }

def openFlow (token : Token) (scanner : Scanner) : Option Scanner := do
  let scanner ← scanner.saveKey
  let scanner := { scanner with key := none, outerKeys := scanner.key :: scanner.outerKeys }
  pure ((scanner.allowKey true).take token)

def closeFlow (token : Token) (scanner : Scanner) : Option Scanner := do
  let scanner ← scanner.dropKey
  let scanner :=
    match scanner.outerKeys with
    | [] => scanner
    | key :: outerKeys => { scanner with key, outerKeys }
  pure ((scanner.allowKey false).take token)

def takeFlowEntry (scanner : Scanner) : Option Scanner := do
  let scanner ← scanner.dropKey
  pure ((scanner.allowKey true).take .flowEntry)

/-- Opens a block collection that begins here, where one may only begin if a key may. -/
def openBlockHere (token : Token) (scanner : Scanner) : Option Scanner :=
  if scanner.inFlow then some scanner
  else if !scanner.keyAllowed then none
  else some (scanner.openBlock scanner.cursor.column scanner.count token)

def takeBlockEntry (scanner : Scanner) : Option Scanner := do
  let scanner ← scanner.openBlockHere .blockSequenceStart
  let scanner ← scanner.dropKey
  pure ((scanner.allowKey true).take .blockEntry)

def takeKey (scanner : Scanner) : Option Scanner := do
  let scanner ← scanner.openBlockHere .blockMappingStart
  let scanner ← scanner.dropKey
  pure ((scanner.allowKey !scanner.inFlow).take .key)

/-- Takes a colon. If something before it can be its key, the tokens for that are put in front of
it. -/
def takeValue (scanner : Scanner) : Option Scanner :=
  match scanner.key with
  | some key =>
      let scanner := (scanner.insertAt key.position .key).openBlock key.column key.position
        .blockMappingStart
      some (({ scanner with key := none }.allowKey false).take .value)
  | none => do
      let scanner ← scanner.openBlockHere .blockMappingStart
      pure ((scanner.allowKey !scanner.inFlow).take .value)

/-- Takes a token that can be a key or its beginning. -/
def takeNode {α : Type} (read : Cursor → Option (α × Cursor)) (token : α → Token)
    (scanner : Scanner) : Option Scanner := do
  let scanner ← scanner.saveKey
  let (found, cursor) ← read scanner.cursor
  pure { (scanner.allowKey false).emit (token found) with cursor }

def readAnchor (cursor : Cursor) : Option (List Char × Cursor) := do
  let (name, rest) ← readAnchorName cursor.rest.tail
  pure (name, cursor.advanceTo rest)

def takeBlockScalar (isFolded : Bool) (scanner : Scanner) : Option Scanner := do
  let scanner ← scanner.dropKey
  let (text, cursor) ← readBlock isFolded scanner.indentation scanner.cursor
  pure { (scanner.allowKey true).emit (.scalar false text) with cursor }

def takePlain (scanner : Scanner) : Option Scanner := do
  let scanner ← scanner.saveKey
  let (plain, cursor) ← readPlain scanner.inFlow (scanner.indentation + 1) scanner.cursor
  pure { (scanner.allowKey plain.endsLine).emit (.scalar true plain.text) with cursor }

/-- Whether a plain scalar may begin with a character, given what follows. -/
def startsPlain (inFlow : Bool) (c : Char) (rest : List Char) : Bool :=
  !(isBlank c || isBreak c || "-?:,[]\x7b\x7d#&*!|>'\"%@\x60".toList.contains c)
    || (c = '-' && !rest.head?.any isBlank)
    || (!inFlow && (c = '?' || c = ':') && !startsBlank rest)

/-- Takes the next token, which begins with a character. -/
def takeToken (c : Char) (rest : List Char) (scanner : Scanner) : Option Scanner :=
  let endsHere := startsBlank rest
  if scanner.cursor.column = 0 ∧ c = '%' then scanner.takeDirective
  else if scanner.cursor.atMarker '-' then scanner.takeMarker .documentStart
  else if scanner.cursor.atMarker '.' then scanner.takeMarker .documentEnd
  else if c = '[' then scanner.openFlow .flowSequenceStart
  else if c = '{' then scanner.openFlow .flowMappingStart
  else if c = ']' then scanner.closeFlow .flowSequenceEnd
  else if c = '}' then scanner.closeFlow .flowMappingEnd
  else if c = ',' then scanner.takeFlowEntry
  else if c = '-' ∧ endsHere then scanner.takeBlockEntry
  else if c = '?' ∧ (scanner.inFlow ∨ endsHere) then scanner.takeKey
  else if c = ':' ∧ (scanner.inFlow ∨ endsHere) then scanner.takeValue
  else if c = '*' then scanner.takeNode readAnchor .alias
  else if c = '&' then scanner.takeNode readAnchor .anchor
  else if c = '!' then scanner.takeNode (readTag scanner.inFlow) .tag
  else if c = '|' ∧ ¬scanner.inFlow then scanner.takeBlockScalar false
  else if c = '>' ∧ ¬scanner.inFlow then scanner.takeBlockScalar true
  else if c = '\'' then scanner.takeNode (readQuoted '\'') (.scalar false)
  else if c = '"' then scanner.takeNode (readQuoted '"') (.scalar false)
  else if startsPlain scanner.inFlow c rest then scanner.takePlain
  else none

/-- Takes all tokens up to the end of the text. -/
def run (scanner : Scanner) : Option (List Token) := do
  let next ← scanner.skipToToken.dropStaleKeys
  let next := next.closeBlocks next.cursor.column
  match next.cursor.rest with
  | [] => do
      let last ← next.endDocument
      pure last.tokens.reverse
  | c :: rest =>
      match next.takeToken c rest with
      | none => none
      | some after =>
          if after.cursor.rest.length < scanner.cursor.rest.length then after.run else none
termination_by scanner.cursor.rest.length

end Scanner

/-- The tokens of a text, unless it has characters or tokens that a text cannot have. -/
def tokens? (text : List Char) : Option (List Token) :=
  if text.all isAllowed then (Scanner.start text).run else none

end GrpcMock.Yaml
