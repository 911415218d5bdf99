import GrpcMock.Proto.Parse

/-!
Schema files read by a cursor, an index that goes forward over tokens which stay where they are. A
cursor may go past the last token, which then stays current, and nothing makes a loop come to an
end: it is told how many rounds it may go, and what would take more has no result.
-/

namespace GrpcMock.Proto

open GrpcMock.Decimal (Range)
open GrpcMock.Text (unquote?)

/-- Why reading stops early: at a fault, or because there is no token to look at. -/
inductive Halt where
  | fault (fault : Fault)
  | outside

/-- Steps of a cursor over tokens, from the index where it stands, unless there are too many. -/
abbrev Walk (α : Type) := ReaderT Tokens (StateT Nat (ExceptT Halt Option)) α

namespace Walk

-----------------------------------------------------------------------------------------
-- Single tokens
-----------------------------------------------------------------------------------------

/-- The current token. Behind all others the last one stays current. -/
def current : Walk Token := do
  let tokens ← read
  let index ← get
  match tokens[min index (tokens.length - 1)]? with
  | some token => pure token
  | none => throw .outside

/-- Goes past the current token, whatever it is. -/
def forward : Walk Unit := modify (· + 1)

def peek (test : String → Bool) : Walk Bool := do
  let token ← current
  pure (test token.text)

/-- Goes past the current token if it passes a test. -/
def eat (test : String → Bool) : Walk Bool := do
  if ← peek test then
    forward
    pure true
  else pure false

/-- Fails at a token. -/
def failAt {α : Type} (token : Token) (cause : Cause) : Walk α :=
  throw (.fault ⟨cause, token.position⟩)

/-- Fails at the current token because of its text. -/
def fail {α : Type} (cause : String → Cause) : Walk α := do
  let token ← current
  failAt token (cause token.text)

/-- Goes on after all rounds are used up. -/
def endless {α : Type} : Walk α :=
  fun _ _ => (none : Option (Except Halt (α × Nat)))

def isEnd (text : String) : Bool :=
  text == ""

def expect (want : Want) : Walk Token := do
  let token ← current
  if ← eat want.accepts then pure token
  else failAt token (.expected want token.text)

def expectWord (word : String) : Walk Unit := do
  let _ ← expect (.word word)
  pure ()

def integer : Walk Int32 := do
  let token ← expect .integer
  match Range.int32.read? token.text.toList with
  | none => failAt token (.invalidInteger token.text)
  | some value => pure (Int32.ofInt value)

def string : Walk String := do
  let token ← expect .string
  match unquote? token.text with
  | none => failAt token (.invalidString token.text)
  | some text => pure text

-----------------------------------------------------------------------------------------
-- What is passed over
-----------------------------------------------------------------------------------------

/-- One round of passing over a statement with some braces open: how many are open after it, unless
it was the semicolon that ends the statement. -/
def statementRound (depth : Nat) : Walk (Option Nat) := do
  if ← peek isEnd then fail .unexpected
  else if ← eat (· == "\x7b") then pure (some (depth + 1))
  else if ← eat fun text => 0 < depth && text == "\x7d" then pure (some (depth - 1))
  else if ← eat fun text => depth == 0 && text == ";" then pure none
  else do
    forward
    pure (some depth)

def skipStatement : (rounds : Nat) → (depth : Nat) → Walk Unit
  | 0, _ => endless
  | rounds + 1, depth => do
      match ← statementRound depth with
      | none => pure ()
      | some depth => skipStatement rounds depth

/-- One round of passing over options with some brackets open: how many are open after it. -/
def bracketsRound (depth : Nat) : Walk Nat := do
  if ← peek isEnd then fail .unexpected
  else if ← eat (· == "[") then pure (depth + 1)
  else if ← eat (· == "]") then pure (depth - 1)
  else do
    forward
    pure depth

def skipBrackets : (rounds : Nat) → (depth : Nat) → Walk Unit
  | 0, _ => endless
  | rounds + 1, depth =>
      if depth = 0 then pure ()
      else do
        let depth ← bracketsRound depth
        skipBrackets rounds depth

def skipOptions (rounds : Nat) : Walk Unit := do
  if ← eat (· == "[") then skipBrackets rounds 1
  else pure ()

def number (rounds : Nat) (closing : String) : Walk Int32 := do
  expectWord "="
  let number ← integer
  skipOptions rounds
  expectWord closing
  pure number

-----------------------------------------------------------------------------------------
-- Enums and services
-----------------------------------------------------------------------------------------

/-- Goes round after round until one of them closes a body. -/
def all {α : Type} (round : Walk (Step α)) : (rounds : Nat) → Walk (List α)
  | 0 => endless
  | rounds + 1 => do
      match ← round with
      | .close => pure []
      | .skipped => all round rounds
      | .item value => do
          let values ← all round rounds
          pure (value :: values)

/-- Words that begin a statement which is passed over. -/
def beginsSkipped (text : String) : Bool :=
  text == "option" || text == "reserved" || text == "extensions"

/-- Words that begin what is not supported. -/
def isUnsupported (text : String) : Bool :=
  text == "oneof" || text == "extend"

def valueRound (rounds : Nat) : Walk (Step Field) := do
  if ← eat (· == "\x7d") then pure .close
  else if ← peek isEnd then fail .unexpected
  else if ← eat (· == ";") then pure .skipped
  else if ← eat beginsSkipped then do
    skipStatement rounds 0
    pure .skipped
  else do
    let name ← expect .identifier
    let number ← number rounds ";"
    pure (.item ⟨name.text, name.position, none, .singular, number⟩)

def enum (rounds : Nat) (scope : String) : Walk Definition := do
  let name ← expect .identifier
  expectWord "\x7b"
  let values ← all (valueRound rounds) rounds
  pure ⟨inScope scope name.text, name.position, .enum, values, false⟩

def methodOptionRound (rounds : Nat) : Walk (Step Empty) := do
  if ← eat (· == "\x7d") then pure .close
  else if ← peek isEnd then fail .unexpected
  else if ← eat (· == ";") then pure .skipped
  else do
    expectWord "option"
    skipStatement rounds 0
    pure .skipped

def endMethod (rounds : Nat) : Walk Unit := do
  if ← eat (· == "\x7b") then do
    let _ ← all (methodOptionRound rounds) rounds
    pure ()
  else expectWord ";"

def typeInParens : Walk String := do
  expectWord "("
  if ← peek (· == "stream") then fail fun _ => .unsupported "Streaming"
  else do
    let type ← expect .typeName
    expectWord ")"
    pure type.text

/-- The end of the tokens is not looked for: it is no keyword of a method. -/
def methodRound (rounds : Nat) : Walk (Step Rpc) := do
  if ← eat (· == "\x7d") then pure .close
  else if ← eat (· == ";") then pure .skipped
  else if ← eat (· == "option") then do
    skipStatement rounds 0
    pure .skipped
  else do
    expectWord "rpc"
    let name ← expect .identifier
    let input ← typeInParens
    expectWord "returns"
    let output ← typeInParens
    endMethod rounds
    pure (.item ⟨name.text, name.position, input, output⟩)

def service (rounds : Nat) : Walk Service := do
  let name ← expect .identifier
  expectWord "\x7b"
  let methods ← all (methodRound rounds) rounds
  pure ⟨name.text, name.position, methods⟩

-----------------------------------------------------------------------------------------
-- Messages
-----------------------------------------------------------------------------------------

/-- The fields and the definitions that one round adds to the body of a message. -/
abbrev Addition := List Field × List Definition

def mapField (rounds : Nat) (scope : String) : Walk (Field × Definition) := do
  expectWord "<"
  let key ← expect .mapKeyType
  expectWord ","
  let value ← expect .mapValueType
  expectWord ">"
  let name ← expect .identifier
  let number ← number rounds ";"
  let entry := inScope scope (Naming.goCamelCase name.text ++ "Entry")
  pure
    (⟨name.text, name.position, some entry, .map, number⟩,
      mapEntry entry name.position key value)

def label : Walk Label := do
  if ← eat (· == "repeated") then pure .repeated
  else if ← eat fun text => text == "optional" || text == "required" then pure .optional
  else pure .singular

section Bodies

variable (rounds : Nat) (body : String → Walk MessageBody)

/-- A message with all that is nested in it, the keyword already taken. -/
def message (scope : String) : Walk (List Definition) := do
  let name ← expect .identifier
  expectWord "\x7b"
  let body ← body (inScope scope name.text)
  pure (body.definitions (inScope scope name.text) name.position)

def field (scope : String) : Walk Addition := do
  let label ← label
  if ← eat (· == "group") then do
    let name ← expect .identifier
    let number ← number rounds "\x7b"
    let body ← body (inScope scope name.text)
    let field :=
      {
        name := String.ofList (name.text.toList.map Char.toLower),
        position := name.position,
        type := some (inScope scope name.text),
        label := if label.isRepeated then .repeatedGroup else .group,
        number
      }
    pure ([field], body.definitions (inScope scope name.text) name.position)
  else do
    let type ← expect .typeName
    let name ← expect .identifier
    let number ← number rounds ";"
    pure ([⟨name.text, name.position, some type.text, label, number⟩], [])

def messageRound (scope : String) : Walk (Option Addition) := do
  if ← eat (· == "\x7d") then pure none
  else if ← peek isEnd then fail .unexpected
  else if ← eat (· == ";") then pure (some ([], []))
  else if ← eat (· == "message") then do
    let nested ← message body scope
    pure (some ([], nested))
  else if ← eat (· == "enum") then do
    let definition ← enum rounds scope
    pure (some ([], [definition]))
  else if ← eat beginsSkipped then do
    skipStatement rounds 0
    pure (some ([], []))
  else if ← peek isUnsupported then fail .unsupported
  else if ← eat (· == "map") then do
    let (field, entry) ← mapField rounds scope
    pure (some ([field], [entry]))
  else do
    let addition ← field rounds body scope
    pure (some addition)

end Bodies

/-- Goes through the body of a message, to its closing brace. The bodies that are nested in it take
as many rounds as are left. -/
def messageBody : (rounds : Nat) → (scope : String) → Walk MessageBody
  | 0, _ => endless
  | rounds + 1, scope => do
      match ← messageRound rounds (messageBody rounds) scope with
      | none => pure .empty
      | some (fields, nested) => do
          let body ← messageBody rounds scope
          pure (body.after fields nested)

-----------------------------------------------------------------------------------------
-- Files
-----------------------------------------------------------------------------------------

def option (rounds : Nat) : Walk Declaration := do
  if ← eat (· == "go_package") then do
    expectWord "="
    let value ← string
    expectWord ";"
    pure (.goPackage value)
  else do
    skipStatement rounds 0
    pure .skipped

def package (isFirst : Bool) : Walk Declaration := do
  let name ← expect .packageName
  if isFirst then do
    expectWord ";"
    pure (.package name)
  else failAt name .repeatedPackage

/-- One round of reading a file; `isFirst` tells that no package has been named before it. -/
def declaration (rounds : Nat) (isFirst : Bool) : Walk Declaration := do
  if ← eat (· == ";") then pure .skipped
  else if ← eat (· == "package") then package isFirst
  else if ← eat (· == "option") then option rounds
  else if ← peek (· == "import") then fail fun _ => .unsupported "import"
  else if ← eat (· == "message") then do
    let definitions ← message (messageBody rounds) ""
    pure (.definitions definitions)
  else if ← eat (· == "enum") then do
    let definition ← enum rounds ""
    pure (.definitions [definition])
  else if ← eat (· == "service") then do
    let service ← service rounds
    pure (.service service)
  else if ← peek isUnsupported then fail .unsupported
  else fail .unexpected

def declarations : (rounds : Nat) → File → Walk File
  | 0, _ => endless
  | rounds + 1, file => do
      if ← eat isEnd then pure file
      else do
        let declaration ← declaration rounds file.package.isNone
        declarations rounds (file.declare declaration)

def dialect : Walk Dialect := do
  if ← eat (· == "syntax") then do
    expectWord "="
    let token ← current
    let name ← string
    match Dialect.ofName? name with
    | none => failAt token (.unknownDialect name)
    | some dialect => do
        expectWord ";"
        pure dialect
  else pure .proto2

def schema (rounds : Nat) : Walk File := do
  let dialect ← dialect
  declarations rounds { File.empty with dialect }

end Walk

end GrpcMock.Proto
