import GrpcMock.Proto.Parse

/-!
How bodies and files are read, one item after the other. The equations here leave out that the
tokens get fewer, which reading has to know only to come to an end.
-/

namespace GrpcMock.Proto

-----------------------------------------------------------------------------------------
-- Items of enums and services
-----------------------------------------------------------------------------------------

section Items

variable {α : Type} (reader : ItemReader α)

/-- How reading goes on after an item. -/
def ItemReader.goOn : Step α × Tokens → Except Fault (List α × Tokens)
  | (.close, rest) => .ok ([], rest)
  | (.skipped, rest) => reader.all rest
  | (.item value, rest) => (reader.all rest).map fun others => (value :: others.1, others.2)

/-- All items are read by reading the first one and going on after it. -/
theorem ItemReader.all_eq (tokens : Tokens)
    : reader.all tokens = reader.read tokens >>= reader.goOn := by
  rw [ItemReader.all]
  split <;> rename_i read
  · exact (bind_of_eq_error read).symm
  · rw [bind_of_eq_ok read]
    rfl
  · rw [bind_of_eq_ok read]
    rfl
  · rename_i value rest
    rw [bind_of_eq_ok read]
    change _ = Except.map _ (reader.all rest)
    cases reader.all rest <;> rfl

end Items

-----------------------------------------------------------------------------------------
-- Bodies of messages
-----------------------------------------------------------------------------------------

/-- Reads the body of a message with its closing brace. -/
def readBody (scope : String) (tokens : Tokens) : Except Fault (MessageBody × Tokens) :=
  (readMessageBody scope tokens).map fun result => (result.1, result.2.1)

/-- A body takes at least one token, its closing brace. -/
theorem readBody_length {scope : String} {tokens rest : Tokens} {body : MessageBody}
    (h : readBody scope tokens = .ok (body, rest))
    : rest.length < tokens.length := by
  obtain ⟨⟨_, after⟩, -, same⟩ := map_eq_ok.mp h
  cases same
  exact after.2

/-- A body with what comes before it in a message. -/
def addBefore (fields : List Field) (nested : List Definition) (result : MessageBody × Tokens)
    : MessageBody × Tokens :=
  (result.1.after fields nested, result.2)

/-- How reading goes on after an item of a message. The body of a nested message comes first. -/
def goOn (scope : String) : MessageItem × Tokens → Except Fault (MessageBody × Tokens)
  | (.close, rest) => .ok (.empty, rest)
  | (.skipped, rest) => readBody scope rest
  | (.field field, rest) => (readBody scope rest).map (addBefore [field] [])
  | (.mapField field entry, rest) => (readBody scope rest).map (addBefore [field] [entry])
  | (.enum definition, rest) => (readBody scope rest).map (addBefore [] [definition])
  | (.message name field, rest) => do
      let path := inScope scope name.text
      let (inner, rest) ← readBody path rest
      (readBody scope rest).map (addBefore field.toList (inner.definitions path name.position))

/-- A body is read by reading its first item and going on after it, by cases on the item. -/
theorem readBody_eq (scope : String) (tokens : Tokens)
    : readBody scope tokens = readMessageItem scope tokens >>= goOn scope := by
  rw [readBody, readMessageBody]
  split
  · rename_i read
    exact (bind_of_eq_error read).symm
  · rename_i item rest read
    rw [bind_of_eq_ok read]
    cases item with
    | close => rfl
    | message name field =>
        simp only [goOn, readBody]
        cases readMessageBody (inScope scope name.text) rest with
        | error => rfl
        | ok result =>
            change Except.map _ (readMessageBody scope result.2.1 >>= _)
              = Except.map _ (Except.map _ (readMessageBody scope result.2.1))
            cases readMessageBody scope result.2.1 <;> rfl
    | _ =>
        simp only [goOn, readBody]
        cases readMessageBody scope rest <;> rfl

-----------------------------------------------------------------------------------------
-- Files
-----------------------------------------------------------------------------------------

/-- A message is its name, an opening brace and a body, with no word about lengths. -/
theorem readMessage_eq (tokens : Tokens)
    : readMessage tokens
      = (do
          let (name, rest) ← expect .identifier tokens
          let rest ← expectWord "\x7b" rest
          let (body, rest) ← readBody name.text rest
          pure (.definitions (body.definitions name.text name.position), rest)) := by
  unfold readMessage readBody
  refine bind_congr fun (name, rest) => bind_congr fun rest => ?_
  cases readMessageBody name.text rest <;> rfl

/-- Declarations are read up to the token that ends the text, one after the other. -/
theorem readDeclarations_eq (file : File) (token : Token) (rest : Tokens)
    : readDeclarations file (token :: rest)
      = if token.text = "" then .ok (file, rest)
        else (do
          let (declaration, rest) ← readDeclaration file.package.isNone token rest
          readDeclarations (file.declare declaration) rest) := by
  rw [readDeclarations]
  split
  · rfl
  · split <;> rename_i read
    · exact (bind_of_eq_error read).symm
    · rw [bind_of_eq_ok read]

end GrpcMock.Proto
