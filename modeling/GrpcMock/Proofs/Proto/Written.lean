import GrpcMock.Proto.Parse

/-!
What a schema file can look like once it is read. Each item of a message has one of a few shapes,
and a file is put together from items; reading never yields anything else, so what holds of all
written files is shown by induction on how they are written.
-/

namespace GrpcMock.Proto

-----------------------------------------------------------------------------------------
-- Items
-----------------------------------------------------------------------------------------

/-- The name of the message for the entries of a map field. -/
def entryName (scope field : String) : String :=
  inScope scope (Naming.goCamelCase field ++ "Entry")

/-- The map field of a message, typed by the message for its entries. -/
def Field.ofMap (scope name : String) (position : Position) (number : Int32) : Field :=
  ⟨name, position, some (entryName scope name), .map, number⟩

/-- The field that a group is, typed by the message that the group is as well. -/
def Field.ofGroup (scope : String) (name : Token) (isRepeated : Bool) (number : Int32) : Field :=
  {
    name := String.ofList (name.text.toList.map Char.toLower),
    position := name.position,
    type := some (inScope scope name.text),
    label := if isRepeated then .repeatedGroup else .group,
    number
  }

/-- A value of an enum as it is written. -/
structure Field.IsValue (value : Field) : Prop where
  name : isIdentifier value.name
  type : value.type = none
  label : value.label = .singular

/-- A field that brings no message with it. -/
structure Field.IsPlain (field : Field) : Prop where
  name : isIdentifier field.name
  type : ∃ type, field.type = some type ∧ isTypeName type
  notMap : field.label ≠ .map
  notGroup : field.label.isGroup = false

/-- The enums that can be written in a scope. -/
inductive EnumWritten (scope : String) : Definition → Prop
  | intro {name : String} {position : Position} {values : List Field}
      (named : isIdentifier name) (each : ∀ value ∈ values, value.IsValue)
    : EnumWritten scope ⟨inScope scope name, position, .enum, values, false⟩

/-- The items that can be written in the body of a message. -/
inductive MessageItem.Written (scope : String) : MessageItem → Prop
  | close : Written scope .close
  | skipped : Written scope .skipped
  | field {field : Field} (plain : field.IsPlain) : Written scope (.field field)
  | mapField {name : String} {position : Position} {number : Int32} {key value : Token}
      (named : isIdentifier name) (keyType : isTypeName key.text)
      (valueType : isTypeName value.text)
    : Written scope
        (.mapField (.ofMap scope name position number)
          (mapEntry (entryName scope name) position key value))
  | enum {definition : Definition} (written : EnumWritten scope definition)
    : Written scope (.enum definition)
  | message {name : Token} (named : isIdentifier name.text) : Written scope (.message name none)
  | group {name : Token} {isRepeated : Bool} {number : Int32} (named : isIdentifier name.text)
    : Written scope (.message name (some (.ofGroup scope name isRepeated number)))

/-- A token that is taken has a text that is wanted. -/
theorem expect_accepts {want : Want} {tokens rest : Tokens} {token : Token}
    (h : expect want tokens = .ok (token, rest))
    : want.accepts token.text := by
  unfold expect at h
  split at h
  · cases h
  split at h
  · cases h
    assumption
  · cases h

/-- What holds of every item that is read holds of all items of a body, by induction along it. -/
theorem ItemReader.all_of_each {α : Type} {reader : ItemReader α} {property : α → Prop}
    (each : ∀ {tokens value rest}, reader.read tokens = .ok (.item value, rest) → property value)
    {tokens rest : Tokens} {values : List α} (h : reader.all tokens = .ok (values, rest))
    : ∀ value ∈ values, property value := by
  fun_induction reader.all tokens generalizing values rest with
  | case1 => cases h
  | case2 =>
      cases h
      simp
  | case3 tokens left hr _ ih => exact ih h
  | case4 => cases h
  | case5 tokens value left hr _ others after ha ih =>
      cases h
      intro next member
      rcases List.mem_cons.mp member with rfl | member
      · exact each hr
      · exact ih ha next member

/-- A value that is read is one. -/
theorem readValue_written {tokens rest : Tokens} {value : Field}
    (h : readValue tokens = .ok (.item value, rest))
    : value.IsValue := by
  unfold readValue at h
  split at h
  · cases h
  split at h
  · cases h
  split at h
  · cases h
  split at h
  · cases h
  split at h
  · simp [map_eq_ok] at h
  · simp only [bind_eq_ok, pure_eq_ok, Prod.mk.injEq, Step.item.injEq] at h
    obtain ⟨⟨name, _⟩, named, ⟨_, _⟩, _, rfl, _⟩ := h
    exact ⟨expect_accepts named, rfl, rfl⟩

/-- An enum that is read can be written in its scope. -/
theorem readEnum_written {scope : String} {tokens rest : Tokens} {definition : Definition}
    (h : readEnum scope tokens = .ok (definition, rest))
    : EnumWritten scope definition := by
  simp only [readEnum, bind_eq_ok, pure_eq_ok, Prod.mk.injEq] at h
  obtain ⟨⟨name, _⟩, named, _, -, ⟨values, _⟩, all, rfl, -⟩ := h
  exact .intro (expect_accepts named) (ItemReader.all_of_each readValue_written all)

/-- A map field that is read can be written, with the message for its entries. -/
theorem readMapField_written {scope : String} {tokens rest : Tokens} {item : MessageItem}
    (h : readMapField scope tokens = .ok (item, rest))
    : item.Written scope := by
  simp only [readMapField, bind_eq_ok, pure_eq_ok, Prod.mk.injEq] at h
  obtain ⟨_, -, ⟨key, _⟩, hk, _, -, ⟨value, _⟩, hv, h⟩ := h
  obtain ⟨_, -, ⟨name, _⟩, named, ⟨number, _⟩, -, rfl, -⟩ := h
  exact .mapField (expect_accepts named) (expect_accepts hk) (expect_accepts hv)

/-- The label in front of a field makes it neither a map nor a group. -/
theorem readLabel_plain (tokens : Tokens)
    : (readLabel tokens).1 ≠ .map ∧ (readLabel tokens).1.isGroup = false := by
  unfold readLabel
  split
  · exact ⟨by simp, rfl⟩
  split
  · exact ⟨by simp, rfl⟩
  split
  · exact ⟨by simp, rfl⟩
  · exact ⟨by simp, rfl⟩

/-- A field that is read can be written, as one of its own or as a group. -/
theorem readField_written {scope : String} {tokens rest : Tokens} {item : MessageItem}
    (h : readField scope tokens = .ok (item, rest))
    : item.Written scope := by
  have label := readLabel_plain tokens
  unfold readField at h
  dsimp only at h
  split at h
  · simp only [readGroup, bind_eq_ok, pure_eq_ok, Prod.mk.injEq] at h
    obtain ⟨⟨name, _⟩, named, ⟨number, _⟩, -, rfl, -⟩ := h
    exact .group (expect_accepts named)
  · simp only [bind_eq_ok, pure_eq_ok, Prod.mk.injEq] at h
    obtain ⟨⟨type, _⟩, typed, ⟨name, _⟩, named, ⟨number, _⟩, -, rfl, -⟩ := h
    exact .field
      ⟨expect_accepts named, ⟨type.text, rfl, expect_accepts typed⟩, label.1, label.2⟩

/-- Whatever is read in the body of a message can be written there. -/
theorem readMessageItem_written {scope : String} {tokens rest : Tokens} {item : MessageItem}
    (h : readMessageItem scope tokens = .ok (item, rest))
    : item.Written scope := by
  unfold readMessageItem at h
  split at h
  · cases h
  split at h
  · cases h
    exact .close
  split at h
  · cases h
  split at h
  · cases h
    exact .skipped
  split at h
  · simp only [readMessageName, bind_eq_ok, pure_eq_ok, Prod.mk.injEq] at h
    obtain ⟨⟨name, _⟩, named, _, -, rfl, -⟩ := h
    exact .message (expect_accepts named)
  split at h
  · simp only [map_eq_ok, Prod.mk.injEq] at h
    obtain ⟨⟨definition, _⟩, read, rfl, -⟩ := h
    exact .enum (readEnum_written read)
  split at h
  · simp only [map_eq_ok, Prod.mk.injEq] at h
    obtain ⟨_, -, rfl, -⟩ := h
    exact .skipped
  split at h
  · cases h
  split at h
  · exact readMapField_written h
  · exact readField_written h

-----------------------------------------------------------------------------------------
-- Bodies and files
-----------------------------------------------------------------------------------------

/-- The bodies that can be written for a message, whose name is the scope of what is in them. -/
inductive MessageBody.Written : String → MessageBody → Prop
  | close {scope : String} : Written scope .empty
  | field {scope : String} {field : Field} {body : MessageBody}
      (item : (MessageItem.field field).Written scope) (rest : Written scope body)
    : Written scope (body.after [field] [])
  | mapField {scope : String} {field : Field} {entry : Definition} {body : MessageBody}
      (item : (MessageItem.mapField field entry).Written scope) (rest : Written scope body)
    : Written scope (body.after [field] [entry])
  | enum {scope : String} {definition : Definition} {body : MessageBody}
      (item : (MessageItem.enum definition).Written scope) (rest : Written scope body)
    : Written scope (body.after [] [definition])
  | message {scope : String} {name : Token} {field : Option Field} {inner body : MessageBody}
      (item : (MessageItem.message name field).Written scope)
      (nested : Written (inScope scope name.text) inner) (rest : Written scope body)
    : Written scope
        (body.after field.toList
          (inner.definitions (inScope scope name.text) name.position))

/-- A body that is read can be written, by induction on how many tokens there are. -/
theorem readMessageBody_written {scope : String} {tokens : Tokens} {body : MessageBody}
    {rest : Fewer tokens} (h : readMessageBody scope tokens = .ok (body, rest))
    : body.Written scope := by
  fun_induction readMessageBody scope tokens generalizing body with
  | case1 => cases h
  | case2 scope tokens left =>
      cases h
      exact .close
  | case3 scope tokens left _ _ _ ih =>
      simp only [bind_eq_ok, pure_eq_ok, Prod.mk.injEq] at h
      obtain ⟨⟨_, _⟩, more, rfl, -⟩ := h
      exact ih more
  | case4 scope tokens left field read _ _ ih =>
      simp only [bind_eq_ok, pure_eq_ok, Prod.mk.injEq] at h
      obtain ⟨⟨_, _⟩, more, rfl, -⟩ := h
      exact .field (readMessageItem_written read) (ih more)
  | case5 scope tokens left field entry read _ _ ih =>
      simp only [bind_eq_ok, pure_eq_ok, Prod.mk.injEq] at h
      obtain ⟨⟨_, _⟩, more, rfl, -⟩ := h
      exact .mapField (readMessageItem_written read) (ih more)
  | case6 scope tokens left definition read _ _ ih =>
      simp only [bind_eq_ok, pure_eq_ok, Prod.mk.injEq] at h
      obtain ⟨⟨_, _⟩, more, rfl, -⟩ := h
      exact .enum (readMessageItem_written read) (ih more)
  | case7 scope tokens left name field read path _ _ inner =>
      rename_i outer
      simp only [bind_eq_ok, pure_eq_ok, Prod.mk.injEq] at h
      obtain ⟨⟨_, between⟩, nested, ⟨_, _⟩, more, rfl, -⟩ := h
      exact .message (readMessageItem_written read) (inner nested) (outer between more)

/-- The lists of definitions that can be written in a file: enums and messages, each message with
what is nested in it. -/
inductive DefinitionsWritten : List Definition → Prop
  | nil : DefinitionsWritten []
  | enum {earlier : List Definition} {definition : Definition}
      (before : DefinitionsWritten earlier) (written : EnumWritten "" definition)
    : DefinitionsWritten (earlier ++ [definition])
  | message {earlier : List Definition} {name : String} {position : Position} {body : MessageBody}
      (before : DefinitionsWritten earlier) (named : isIdentifier name)
      (written : body.Written name)
    : DefinitionsWritten (earlier ++ body.definitions name position)

/-- The files that can be written. -/
structure File.Written (file : File) : Prop where
  package : ∀ package, file.package = some package → isTypeName package
  definitions : DefinitionsWritten file.definitions

/-- A package that is read has a dotted name. -/
theorem readPackage_written {isFirst : Bool} {tokens rest : Tokens} {declaration : Declaration}
    (h : readPackage isFirst tokens = .ok (declaration, rest))
    : ∃ name, declaration = .package name ∧ isTypeName name.text := by
  simp only [readPackage, bind_eq_ok] at h
  obtain ⟨⟨name, _⟩, named, h⟩ := h
  split at h
  · simp only [bind_eq_ok, pure_eq_ok, Prod.mk.injEq] at h
    obtain ⟨_, -, rfl, -⟩ := h
    exact ⟨name, rfl, expect_accepts named⟩
  · cases h

/-- An option that is read is passed over or says what the package in Go is. -/
theorem readOption_written {tokens rest : Tokens} {declaration : Declaration}
    (h : readOption tokens = .ok (declaration, rest))
    : declaration = .skipped ∨ ∃ value, declaration = .goPackage value := by
  unfold readOption at h
  split at h
  · cases h
  split at h
  · simp only [bind_eq_ok, pure_eq_ok, Prod.mk.injEq] at h
    obtain ⟨_, -, ⟨value, _, _⟩, -, _, -, rfl, -⟩ := h
    exact .inr ⟨value, rfl⟩
  · simp only [map_eq_ok, Prod.mk.injEq] at h
    obtain ⟨_, -, rfl, -⟩ := h
    exact .inl rfl

/-- A message that is read has an identifier for its name and a body that can be written. -/
theorem readMessage_written {tokens rest : Tokens} {declaration : Declaration}
    (h : readMessage tokens = .ok (declaration, rest))
    : ∃ (name : Token) (body : MessageBody),
        isIdentifier name.text
        ∧ body.Written name.text
        ∧ declaration = .definitions (body.definitions name.text name.position) := by
  simp only [readMessage, bind_eq_ok, pure_eq_ok, Prod.mk.injEq] at h
  obtain ⟨⟨name, _⟩, named, _, -, ⟨body, _⟩, read, rfl, -⟩ := h
  exact ⟨name, body, expect_accepts named, readMessageBody_written read, rfl⟩

/-- One more declaration leaves a file such as can be written. -/
theorem File.Written.declare {file : File} {isFirst : Bool} {token : Token}
    {left rest : Tokens} {declaration : Declaration} (written : file.Written)
    (h : readDeclaration isFirst token left = .ok (declaration, rest))
    : (file.declare declaration).Written := by
  unfold readDeclaration at h
  split at h
  · cases h
    exact written
  split at h
  · obtain ⟨name, rfl, named⟩ := readPackage_written h
    refine ⟨fun package same => ?_, written.definitions⟩
    cases same
    exact named
  split at h
  · rcases readOption_written h with rfl | ⟨value, rfl⟩
    · exact written
    · exact ⟨written.package, written.definitions⟩
  split at h
  · cases h
  split at h
  · obtain ⟨name, body, named, inside, rfl⟩ := readMessage_written h
    exact ⟨written.package, .message written.definitions named inside⟩
  split at h
  · simp only [map_eq_ok, Prod.mk.injEq] at h
    obtain ⟨⟨definition, _⟩, read, rfl, -⟩ := h
    exact ⟨written.package, .enum written.definitions (readEnum_written read)⟩
  split at h
  · simp only [readService, bind_eq_ok, pure_eq_ok, Prod.mk.injEq] at h
    obtain ⟨_, -, _, -, _, -, rfl, -⟩ := h
    exact ⟨written.package, written.definitions⟩
  split at h
  · cases h
  · cases h

/-- What is added to a written file leaves a written file, declaration by declaration. -/
theorem readDeclarations_written {file result : File} {tokens rest : Tokens}
    (written : file.Written) (h : readDeclarations file tokens = .ok (result, rest))
    : result.Written := by
  fun_induction readDeclarations file tokens with
  | case1 file =>
      cases h
      exact written
  | case2 file token left =>
      cases h
      exact written
  | case3 => cases h
  | case4 file token left _ declaration after read _ ih => exact ih (written.declare read) h

/-- Every file that is read can be written. -/
theorem parse_written {tokens : Tokens} {file : File} (h : parse tokens = .ok file)
    : file.Written := by
  obtain ⟨⟨result, _⟩, read, rfl⟩ := map_eq_ok.mp h
  simp only [readFile, bind_eq_ok] at read
  obtain ⟨⟨dialect, _⟩, -, declarations⟩ := read
  exact readDeclarations_written ⟨by simp [File.empty], .nil⟩ declarations

/-- Every file that a text is read as is written. -/
theorem File.Written.of_text {text : String} {file : File} (h : File.ofText text = .ok file)
    : file.Written := by
  obtain ⟨tokens, -, parsed⟩ := bind_eq_ok.mp h
  exact parse_written parsed

end GrpcMock.Proto
