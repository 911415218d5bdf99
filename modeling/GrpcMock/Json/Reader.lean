import GrpcMock.Document
import GrpcMock.Json.Token

/-!
Reading JSON text. The text is cut into tokens, and a run over the tokens keeps the arrays and
objects that are still open on a stack. A text that breaks off yields the document of what was read
so far.
-/

namespace GrpcMock.Json

/-- The tokens of a text up to the first place that is none, and whether there is no such place. -/
def tokens : List Char → List Token × Bool
  | [] => ([], true)
  | c :: rest =>
      if isSpace c then tokens rest
      else
        match h : Token.read? c rest with
        | none => ([], false)
        | some (token, after) =>
            have := Token.read?_length h
            (token :: (tokens after).1, (tokens after).2)
termination_by text => text.length

/-- An array or object that is still open, with what it holds, the last first. An object may wait
for the value of a member. -/
inductive Frame where
  | array (items : List Document)
  | object (members : List (Option String × Document)) (awaiting : Option (Option String))

/-- What may come next. -/
inductive Mode where
  | value
  | firstItem
  | firstMember
  | member
  | colon
  /-- A comma or the end of what is open. -/
  | next
  /-- Nothing is open, and this was read. -/
  | done (document : Document)

/-- How many arrays and objects may be open at once in what is read; what lies deeper can only be
passed over. -/
def depthLimit : Nat := 127

/-- A value is complete: it goes where the innermost open array or object has its place for it. -/
def place (document : Document) : List Frame → List Frame × Mode
  | [] => ([], .done document)
  | .array items :: below => (.array (document :: items) :: below, .next)
  | .object members awaiting :: below =>
      (.object ((awaiting.getD none, document) :: members) none :: below, .next)

/-- An array or object is complete, with the frames below it. -/
def close (document : Document) (below : List Frame) : List Frame × Mode :=
  place (if below.length < depthLimit then document else .unsound) below

/-- The text breaks off: what is open stays incomplete. A member without a value, and a text without
any, break off where the value would have come. -/
def abandon : Option Document → List Frame → Document
  | inner, [] => inner.getD .broken
  | inner, .array items :: below =>
      abandon (some (.list true (inner.toList ++ items).reverse false)) below
  | _, .object members none :: below => abandon (some (.table members.reverse false)) below
  | inner, .object members (some name) :: below =>
      abandon (some (.table ((name, inner.getD .broken) :: members).reverse false)) below

/-- What one token does to the open frames, unless it may not come here. -/
def step : Token → List Frame × Mode → Option (List Frame × Mode)
  | .openArray, (frames, .value) => some (.array [] :: frames, .firstItem)
  | .openArray, (frames, .firstItem) => some (.array [] :: frames, .firstItem)
  | .openObject, (frames, .value) => some (.object [] none :: frames, .firstMember)
  | .openObject, (frames, .firstItem) => some (.object [] none :: frames, .firstMember)
  | .leaf value, (frames, .value) => some (place (.leaf value) frames)
  | .leaf value, (frames, .firstItem) => some (place (.leaf value) frames)
  | .string (some text), (frames, .value) => some (place (.text text (some (.string text))) frames)
  | .string (some text), (frames, .firstItem) =>
      some (place (.text text (some (.string text))) frames)
  | .string none, (frames, .value) => some (place .unsound frames)
  | .string none, (frames, .firstItem) => some (place .unsound frames)
  | .unsoundNumber, (frames, .value) => some (place .unsound frames)
  | .unsoundNumber, (frames, .firstItem) => some (place .unsound frames)
  | .closeArray, (.array items :: below, .firstItem) =>
      some (close (.list true items.reverse true) below)
  | .closeArray, (.array items :: below, .next) =>
      some (close (.list true items.reverse true) below)
  | .closeObject, (.object members _ :: below, .firstMember) =>
      some (close (.table members.reverse true) below)
  | .closeObject, (.object members _ :: below, .next) =>
      some (close (.table members.reverse true) below)
  | .comma, (.array items :: below, .next) => some (.array items :: below, .value)
  | .comma, (.object members awaiting :: below, .next) =>
      some (.object members awaiting :: below, .member)
  | .string name, (.object members _ :: below, .firstMember) =>
      some (.object members (some name) :: below, .colon)
  | .string name, (.object members _ :: below, .member) =>
      some (.object members (some name) :: below, .colon)
  | .colon, (frames, .colon) => some (frames, .value)
  | _, _ => none

/-- What a text says, and whether it says nothing more after that. -/
structure Reading where
  document : Document
  clean : Bool

/-- Runs over the tokens; `complete` tells whether they reach to the end of the text. -/
def run (complete : Bool) : List Token → List Frame × Mode → Reading
  | [], (_, .done document) => ⟨document, complete⟩
  | [], (frames, _) => ⟨abandon none frames, false⟩
  | _ :: _, (_, .done document) => ⟨document, false⟩
  | token :: rest, state =>
      match step token state with
      | some next => run complete rest next
      | none => ⟨abandon none state.1, false⟩

def Reading.ofText (text : String) : Reading :=
  let (tokens, complete) := tokens text.toList
  run complete tokens ([], .value)

/-- Reads a text that is one value of a type. -/
def readTyped {α : Type} (read : Document → Except Document.Fault α) (text : String)
    : Except Document.Fault α := do
  let reading := Reading.ofText text
  let value ← read reading.document
  if reading.clean then pure value else throw .malformed

/-- Reads a text that is one value. -/
def read? (text : String) : Option Json :=
  (readTyped Document.payload text).toOption

end GrpcMock.Json
