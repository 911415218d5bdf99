import GrpcMock.Naming
import GrpcMock.Proto.Body

/-!
The bodies of messages. An item of a body is read up to the place where the body of a nested message
begins, so only one function has to follow the nesting.
-/

namespace GrpcMock.Proto

/-- A name inside a scope; the outermost scope has no name. -/
def inScope (scope name : String) : String :=
  if scope.isEmpty then name else scope ++ "." ++ name

/-- What stands next in the body of a message. -/
inductive MessageItem where
  | close
  | skipped
  | field (field : Field)
  /-- A map field, with the message for its entries. -/
  | mapField (field : Field) (entry : Definition)
  | enum (definition : Definition)
  /-- A message, the body of which follows; a group is a field as well. -/
  | message (name : Token) (field : Option Field)

/-- Reads an enum, the keyword already taken. -/
def readEnum (scope : String) (tokens : Tokens) : Except Fault (Definition × Tokens) := do
  let (name, rest) ← expect .identifier tokens
  let rest ← expectWord "\x7b" rest
  let (values, rest) ← valueReader.all rest
  pure (⟨inScope scope name.text, name.position, .enum, values, false⟩, rest)

theorem readEnum_length {scope : String} {tokens rest : Tokens} {definition : Definition}
    (h : readEnum scope tokens = .ok (definition, rest))
    : rest.length < tokens.length := by
  simp only [readEnum, bind_eq_ok, pure_eq_ok, Prod.mk.injEq] at h
  obtain ⟨⟨_, _⟩, h1, _, h2, ⟨_, _⟩, h3, -, rfl⟩ := h
  have := expect_length h1
  have := expectWord_length h2
  have := ItemReader.all_length h3
  dsimp only at *
  omega

/-- The message for the entries of a map field: a key and a value. -/
def mapEntry (name : String) (position : Position) (key value : Token) : Definition :=
  {
    name,
    position,
    kind := .message,
    fields :=
      [
        ⟨"key", key.position, some key.text, .singular, 1⟩,
        ⟨"value", value.position, some value.text, .singular, 2⟩
      ],
    isMapEntry := true
  }

/-- Reads a map field, the keyword already taken. Its type is the message for its entries, which is
named after the field and stands beside it. -/
def readMapField (scope : String) (tokens : Tokens) : Except Fault (MessageItem × Tokens) := do
  let rest ← expectWord "<" tokens
  let (key, rest) ← expect .mapKeyType rest
  let rest ← expectWord "," rest
  let (value, rest) ← expect .mapValueType rest
  let rest ← expectWord ">" rest
  let (name, rest) ← expect .identifier rest
  let (number, rest) ← readNumber ";" rest
  let entry := inScope scope (Naming.goCamelCase name.text ++ "Entry")
  pure
    (.mapField ⟨name.text, name.position, some entry, .map, number⟩
      (mapEntry entry name.position key value), rest)

theorem readMapField_length {scope : String} {tokens rest : Tokens} {item : MessageItem}
    (h : readMapField scope tokens = .ok (item, rest))
    : rest.length < tokens.length := by
  simp only [readMapField, bind_eq_ok, pure_eq_ok, Prod.mk.injEq] at h
  obtain ⟨_, h1, ⟨_, _⟩, h2, _, h3, ⟨_, _⟩, h4, _, h5, ⟨_, _⟩, h6, ⟨_, _⟩, h7, -, rfl⟩ := h
  have := expectWord_length h1
  have := expect_length h2
  have := expectWord_length h3
  have := expect_length h4
  have := expectWord_length h5
  have := expect_length h6
  have := readNumber_length h7
  dsimp only at *
  omega

/-- Reads the beginning of a group up to its body, the keyword already taken. The field has the name
of the group in lower case. -/
def readGroup (scope : String) (isRepeated : Bool) (tokens : Tokens)
    : Except Fault (MessageItem × Tokens) := do
  let (name, rest) ← expect .identifier tokens
  let (number, rest) ← readNumber "\x7b" rest
  let field :=
    {
      name := String.ofList (name.text.toList.map Char.toLower),
      position := name.position,
      type := some (inScope scope name.text),
      label := if isRepeated then .repeatedGroup else .group,
      number
    }
  pure (.message name (some field), rest)

theorem readGroup_length {scope : String} {isRepeated : Bool} {tokens rest : Tokens}
    {item : MessageItem} (h : readGroup scope isRepeated tokens = .ok (item, rest))
    : rest.length < tokens.length := by
  simp only [readGroup, bind_eq_ok, pure_eq_ok, Prod.mk.injEq] at h
  obtain ⟨⟨_, _⟩, h1, ⟨_, _⟩, h2, -, rfl⟩ := h
  have := expect_length h1
  have := readNumber_length h2
  dsimp only at *
  omega

/-- Takes the label of a field, if it has one. -/
def readLabel : Tokens → Label × Tokens
  | [] => (.singular, [])
  | token :: rest =>
      if token.text = "repeated" then (.repeated, rest)
      else if token.text = "optional" ∨ token.text = "required" then (.optional, rest)
      else (.singular, token :: rest)

theorem readLabel_length (tokens : Tokens) : (readLabel tokens).2.length ≤ tokens.length := by
  unfold readLabel
  split
  · simp
  split
  · simp
  split <;> simp

/-- Whether the next token is a word. -/
def startsWith (word : String) (tokens : Tokens) : Bool :=
  tokens.head?.any fun token => token.text == word

/-- Reads a field or the beginning of a group, with its label. -/
def readField (scope : String) (tokens : Tokens) : Except Fault (MessageItem × Tokens) :=
  let (label, rest) := readLabel tokens
  if startsWith "group" rest then readGroup scope label.isRepeated rest.tail
  else do
    let (type, rest) ← expect .typeName rest
    let (name, rest) ← expect .identifier rest
    let (number, rest) ← readNumber ";" rest
    pure (.field ⟨name.text, name.position, some type.text, label, number⟩, rest)

theorem readField_length {scope : String} {tokens rest : Tokens} {item : MessageItem}
    (h : readField scope tokens = .ok (item, rest))
    : rest.length < tokens.length := by
  have hl := readLabel_length tokens
  unfold readField at h
  dsimp only at h
  split at h
  · have := readGroup_length h
    have := List.length_tail (l := (readLabel tokens).2)
    omega
  · simp only [bind_eq_ok, pure_eq_ok, Prod.mk.injEq] at h
    obtain ⟨⟨_, _⟩, h1, ⟨_, _⟩, h2, ⟨_, _⟩, h3, -, rfl⟩ := h
    have := expect_length h1
    have := expect_length h2
    have := readNumber_length h3
    dsimp only at *
    omega

/-- Reads the beginning of a message up to its body, the keyword already taken. -/
def readMessageName (tokens : Tokens) : Except Fault (MessageItem × Tokens) := do
  let (name, rest) ← expect .identifier tokens
  let rest ← expectWord "\x7b" rest
  pure (.message name none, rest)

theorem readMessageName_length {tokens rest : Tokens} {item : MessageItem}
    (h : readMessageName tokens = .ok (item, rest))
    : rest.length < tokens.length := by
  simp only [readMessageName, bind_eq_ok, pure_eq_ok, Prod.mk.injEq] at h
  obtain ⟨⟨_, _⟩, h1, _, h2, -, rfl⟩ := h
  have := expect_length h1
  have := expectWord_length h2
  dsimp only at *
  omega

/-- Reads the next item of the body of a message. -/
def readMessageItem (scope : String) : Tokens → Except Fault (MessageItem × Tokens)
  | [] => .error (unexpected [])
  | token :: rest =>
      if token.text = "\x7d" then .ok (.close, rest)
      else if token.text = "" then .error (unexpected (token :: rest))
      else if token.text = ";" then .ok (.skipped, rest)
      else if token.text = "message" then readMessageName rest
      else if token.text = "enum" then
        (readEnum scope rest).map fun (definition, rest) => (.enum definition, rest)
      else if token.text = "option" ∨ token.text = "reserved" ∨ token.text = "extensions" then
        (skipStatement 0 rest).map (.skipped, ·)
      else if token.text = "oneof" ∨ token.text = "extend" then
        .error ⟨.unsupported token.text, token.position⟩
      else if token.text = "map" then readMapField scope rest
      else readField scope (token :: rest)

theorem readMessageItem_length {scope : String} {tokens rest : Tokens} {item : MessageItem}
    (h : readMessageItem scope tokens = .ok (item, rest))
    : rest.length < tokens.length := by
  unfold readMessageItem at h
  split at h
  · simp at h
  split at h
  · simp_all
  split at h
  · simp at h
  split at h
  · simp_all
  split at h
  · exact Nat.lt_succ_of_lt (readMessageName_length h)
  split at h
  · simp only [map_eq_ok, Prod.mk.injEq] at h
    obtain ⟨⟨_, _⟩, he, -, rfl⟩ := h
    exact Nat.lt_succ_of_lt (readEnum_length he)
  split at h
  · simp only [map_eq_ok, Prod.mk.injEq] at h
    obtain ⟨_, hs, -, rfl⟩ := h
    exact Nat.lt_succ_of_lt (skipStatement_length hs)
  split at h
  · simp at h
  split at h
  · exact Nat.lt_succ_of_lt (readMapField_length h)
  · exact readField_length h

/-- The body of a message: its fields, and the definitions that follow it in the file because they
are nested in it. -/
structure MessageBody where
  fields : List Field
  nested : List Definition

def MessageBody.empty : MessageBody := ⟨[], []⟩

/-- A body with fields and definitions before its own. -/
def MessageBody.after (fields : List Field) (nested : List Definition) (body : MessageBody)
    : MessageBody :=
  ⟨fields ++ body.fields, nested ++ body.nested⟩

/-- A message with everything nested in it. -/
def MessageBody.definitions (name : String) (position : Position) (body : MessageBody)
    : List Definition :=
  ⟨name, position, .message, body.fields, false⟩ :: body.nested

/-- Fewer tokens than there were. -/
abbrev Fewer (tokens : Tokens) := { rest : Tokens // rest.length < tokens.length }

/-- Reads the body of a message with its closing brace. -/
def readMessageBody (scope : String) (tokens : Tokens)
    : Except Fault (MessageBody × Fewer tokens) :=
  match h : readMessageItem scope tokens with
  | .error fault => .error fault
  | .ok (item, rest) =>
      have hr := readMessageItem_length h
      match item with
      | .close => .ok (.empty, ⟨rest, hr⟩)
      | .skipped => do
          let (body, after) ← readMessageBody scope rest
          pure (body, ⟨after.1, by have := after.2; omega⟩)
      | .field field => do
          let (body, after) ← readMessageBody scope rest
          pure (body.after [field] [], ⟨after.1, by have := after.2; omega⟩)
      | .mapField field entry => do
          let (body, after) ← readMessageBody scope rest
          pure (body.after [field] [entry], ⟨after.1, by have := after.2; omega⟩)
      | .enum definition => do
          let (body, after) ← readMessageBody scope rest
          pure (body.after [] [definition], ⟨after.1, by have := after.2; omega⟩)
      | .message name field => do
          let path := inScope scope name.text
          let (inner, between) ← readMessageBody path rest
          have := between.2
          let (body, after) ← readMessageBody scope between.1
          pure
            (body.after field.toList (inner.definitions path name.position),
              ⟨after.1, by have := after.2; omega⟩)
termination_by tokens.length

end GrpcMock.Proto
