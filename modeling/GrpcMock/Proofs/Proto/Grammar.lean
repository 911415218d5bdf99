import GrpcMock.Proofs.Lists
import GrpcMock.Proofs.Proto.Reading
import GrpcMock.Proofs.Proto.Source
import Mathlib.Data.List.Induction

/-!
Sources are read back from their tokens. Each reader takes the pieces of what it reads and leaves
what comes after them.
-/

namespace GrpcMock.Proto

open GrpcMock.Text (unquote?)

-----------------------------------------------------------------------------------------
-- Pieces
-----------------------------------------------------------------------------------------

/-- Tokens that begin with some pieces and go on with the rest. -/
def Spells : List Piece → Tokens → Tokens → Prop
  | [], tokens, rest => tokens = rest
  | piece :: pieces, tokens, rest =>
      ∃ token after, tokens = token :: after ∧ piece.Fits token ∧ Spells pieces after rest

/-- Pieces in a row are spelled by tokens in a row, by induction on the first pieces. -/
theorem spells_append {left right : List Piece} {tokens rest : Tokens}
    : Spells (left ++ right) tokens rest
      ↔ ∃ between, Spells left tokens between ∧ Spells right between rest := by
  induction left generalizing tokens with
  | nil => exact ⟨fun h => ⟨tokens, rfl, h⟩, fun ⟨_, same, h⟩ => same ▸ h⟩
  | cons piece pieces ih =>
      constructor
      · rintro ⟨token, after, same, fits, more⟩
        obtain ⟨between, first, second⟩ := ih.mp more
        exact ⟨between, ⟨token, after, same, fits, first⟩, second⟩
      · rintro ⟨between, ⟨token, after, same, fits, first⟩, second⟩
        exact ⟨token, after, same, fits, ih.mpr ⟨between, first, second⟩⟩

/-- Tokens that fit some pieces one by one spell them and leave nothing. -/
theorem Spells.of_forall₂ {pieces : List Piece} {tokens : Tokens}
    (h : List.Forall₂ Piece.Fits pieces tokens)
    : Spells pieces tokens [] := by
  induction h with
  | nil => rfl
  | cons fits _ ih => exact ⟨_, _, rfl, fits, ih⟩

-----------------------------------------------------------------------------------------
-- Single tokens
-----------------------------------------------------------------------------------------

section Tokens

variable {token : Token} {rest : Tokens}

/-- A token with a text that is wanted is taken. -/
theorem expect_of_accepts {want : Want} (h : want.accepts token.text)
    : expect want (token :: rest) = .ok (token, rest) := by
  rw [expect, if_pos h]

/-- A word is taken where it stands. -/
theorem expectWord_of_text {word : String} (h : token.text = word)
    : expectWord word (token :: rest) = .ok rest := by
  have accepted : (Want.word word).accepts token.text := beq_iff_eq.mpr h
  rw [expectWord, expect_of_accepts accepted]

/-- A numeral is taken with its value. -/
theorem expectInteger_of_text (number : Numeral) (h : token.text = number.text)
    : expectInteger (token :: rest) = .ok (number.value, rest) := by
  have accepted : Want.integer.accepts token.text := h ▸ number.written
  rw [expectInteger, expect_of_accepts accepted]
  simp only [h, number.reads, Int32.ofInt_toInt]

/-- A literal is taken with its value and its place. -/
theorem expectString_of_text (quoted : Quoted) (h : token.text = quoted.text)
    : expectString (token :: rest) = .ok (quoted.value, token.position, rest) := by
  have accepted : Want.string.accepts token.text := h ▸ quoted.written
  rw [expectString, expect_of_accepts accepted]
  simp only [h, quoted.reads]

/-- Where no bracket opens there are no options. -/
theorem skipOptions_of_text (h : token.text ≠ "[")
    : skipOptions (token :: rest) = .ok (token :: rest) := by
  rw [skipOptions, if_neg h]

end Tokens

/-- A name is not what is no name. -/
theorem ne_of_named {isName : String → Bool} {text other : String} (h : isName text)
    (unlike : isName other = false)
    : text ≠ other := by
  rintro rfl
  cases unlike.symm.trans h

/-- The number of a field is read from its pieces, up to the sign that closes them. -/
theorem readNumber_spells {number : Numeral} {closing : String} {tokens rest : Tokens}
    (plain : closing ≠ "[")
    (h : Spells [.word "=", .word number.text, .word closing] tokens rest)
    : readNumber closing tokens = .ok (number.value, rest) := by
  obtain ⟨equals, _, rfl, he, digits, _, rfl, hd, close, _, rfl, hc, rfl⟩ := h
  simp only [readNumber, bind_eq_ok, pure_eq_ok]
  exact
    ⟨_, expectWord_of_text he, _, expectInteger_of_text number hd, _,
      skipOptions_of_text (hc.trans_ne plain), _, expectWord_of_text hc, rfl⟩

-----------------------------------------------------------------------------------------
-- Enums and services
-----------------------------------------------------------------------------------------

/-- A body with nothing but its closing brace has no items. -/
theorem ItemReader.all_close {α : Type} {reader : ItemReader α} {tokens rest : Tokens}
    (h : reader.read tokens = .ok (.close, rest))
    : reader.all tokens = .ok ([], rest) := by
  rw [ItemReader.all_eq, bind_of_eq_ok h]
  rfl

/-- A body is read if each of its items is, by induction on the list of them. -/
theorem ItemReader.all_spells {α β : Type} (reader : ItemReader α) {pieces : β → List Piece}
    {value : β → α}
    (close
      : ∀ {token rest}, token.text = "\x7d" → reader.read (token :: rest) = .ok (.close, rest))
    (each
      : ∀ {item tokens rest},
          Spells (pieces item) tokens rest
          → reader.read tokens = .ok (.item (value item), rest))
    {items : List β} {tokens rest : Tokens}
    (h : Spells (items.flatMap pieces ++ [.word "\x7d"]) tokens rest)
    : reader.all tokens = .ok (items.map value, rest) := by
  induction items generalizing tokens with
  | nil =>
      obtain ⟨brace, _, rfl, closes, rfl⟩ := h
      exact ItemReader.all_close (close closes)
  | cons item others ih =>
      rw [List.flatMap_cons, List.append_assoc, spells_append] at h
      obtain ⟨between, first, more⟩ := h
      rw [ItemReader.all_eq, bind_of_eq_ok (each first), ItemReader.goOn, ih more]
      rfl

/-- A brace closes an enum. -/
theorem readValue_close {token : Token} {rest : Tokens} (h : token.text = "\x7d")
    : readValue (token :: rest) = .ok (.close, rest) := by
  rw [readValue, if_pos h]

/-- A brace closes a service. -/
theorem readMethod_close {token : Token} {rest : Tokens} (h : token.text = "\x7d")
    : readMethod (token :: rest) = .ok (.close, rest) := by
  rw [readMethod, if_pos h]

namespace Source

/-- A value of an enum is read back from its pieces. -/
theorem Value.reads {value : Value} {tokens rest : Tokens} (h : Spells value.pieces tokens rest)
    : readValue tokens = .ok (.item value.field, rest) := by
  obtain ⟨name, after, rfl, rfl, number⟩ := h
  obtain ⟨named, free⟩ := value.name.2
  rw [readValue, if_neg (ne_of_named named (by decide)), if_neg (ne_of_named named (by decide)),
    if_neg (ne_of_named named (by decide)), if_neg]
  · simp only [bind_eq_ok, pure_eq_ok]
    exact ⟨_, expect_of_accepts named, _, readNumber_spells (by decide) number, rfl⟩
  · simpa [statementWords] using free

/-- An enum is read back from its pieces, in any scope. -/
theorem Enum.reads {enum : Enum} (scope : String) {tokens rest : Tokens}
    (h : Spells enum.pieces tokens rest)
    : readEnum scope tokens = .ok (enum.definition scope, rest) := by
  obtain ⟨name, _, rfl, rfl, brace, _, rfl, opens, values⟩ := h
  have all := valueReader.all_spells readValue_close Value.reads values
  simp only [readEnum, bind_eq_ok, pure_eq_ok]
  exact ⟨_, expect_of_accepts enum.name.2, _, expectWord_of_text opens, _, all, rfl⟩

/-- The type of a method is read back from its name in parentheses. -/
theorem readTypeInParens_spells {type : MethodType} {tokens rest : Tokens}
    (h : Spells (typePieces type) tokens rest)
    : readTypeInParens tokens = .ok (type.1.text, rest) := by
  obtain ⟨opening, _, rfl, opens, name, _, rfl, rfl, closing, _, rfl, closes, rfl⟩ := h
  obtain ⟨named, noStream⟩ := type.2
  simp only [readTypeInParens, bind_eq_ok, pure_eq_ok]
  exact
    ⟨_, expectWord_of_text opens, (), if_neg noStream, _, expect_of_accepts named, _,
      expectWord_of_text closes, rfl⟩

/-- A semicolon ends a method. -/
theorem endMethod_of_text {token : Token} {rest : Tokens} (h : token.text = ";")
    : endMethod (token :: rest) = .ok rest := by
  rw [endMethod, h, if_neg (by decide), expectWord_of_text h]

/-- A method is read back from its pieces. -/
theorem Method.reads {method : Method} {tokens rest : Tokens}
    (h : Spells method.pieces tokens rest)
    : readMethod tokens = .ok (.item method.rpc, rest) := by
  obtain ⟨keyword, _, rfl, isRpc, name, _, rfl, rfl, types⟩ := h
  obtain ⟨_, input, returns, _, rfl, isReturns, last⟩ := spells_append.mp types
  obtain ⟨_, output, ending, _, rfl, ends, rfl⟩ := spells_append.mp last
  have word : keyword.text = "rpc" := isRpc
  rw [readMethod, word, if_neg (by decide), if_neg (by decide), if_neg (by decide)]
  simp only [bind_eq_ok, pure_eq_ok]
  exact
    ⟨_, expectWord_of_text isRpc, _, expect_of_accepts method.name.2, _,
      readTypeInParens_spells input, _, expectWord_of_text isReturns, _,
      readTypeInParens_spells output, _, endMethod_of_text ends, rfl⟩

/-- A service is read back from its pieces. -/
theorem Service.reads {service : Service} {tokens rest : Tokens}
    (h : Spells service.pieces tokens rest)
    : readService tokens = .ok (.service service.toService, rest) := by
  obtain ⟨name, _, rfl, rfl, brace, _, rfl, opens, methods⟩ := h
  have all := methodReader.all_spells readMethod_close Method.reads methods
  simp only [readService, bind_eq_ok, pure_eq_ok]
  exact ⟨_, expect_of_accepts service.name.2, _, expectWord_of_text opens, _, all, rfl⟩

end Source

-----------------------------------------------------------------------------------------
-- Messages
-----------------------------------------------------------------------------------------

/-- The words and signs in a message that no field begins with. -/
def itemStarts : List String :=
  ["\x7d", "", ";", "message", "enum", "option", "reserved", "extensions", "oneof", "extend", "map"]

def labelWords : List String :=
  ["repeated", "optional", "required"]

/-- What begins with none of the words for other items is a field. -/
theorem readMessageItem_of_field {scope : String} {token : Token} {rest : Tokens}
    (h : token.text ∉ itemStarts)
    : readMessageItem scope (token :: rest) = readField scope (token :: rest) := by
  simp only [itemStarts, List.mem_cons, List.not_mem_nil, or_false, not_or] at h
  simp [readMessageItem, h]

/-- The name of a type is neither such a word nor a label. -/
theorem FieldType.free (type : FieldType)
    : type.1.text ∉ itemStarts ∧ type.1.text ∉ labelWords := by
  obtain ⟨named, free⟩ := type.2
  have noBrace : type.1.text ≠ "\x7d" := ne_of_named named (by decide)
  have noEnd : type.1.text ≠ "" := ne_of_named named (by decide)
  have noSemicolon : type.1.text ≠ ";" := ne_of_named named (by decide)
  simp only [itemWords, List.mem_cons, List.not_mem_nil, or_false, not_or] at free
  simp [itemStarts, labelWords, noBrace, noEnd, noSemicolon, free]

namespace Source

/-- Whatever is marked is a field, and its label is the marking. -/
theorem Marking.reads (marking : Marking) (scope : String) {piece : Piece} {pieces : List Piece}
    {tokens rest : Tokens} (h : Spells (marking.pieces ++ piece :: pieces) tokens rest)
    (free : ∀ token, piece.Fits token → token.text ∉ itemStarts ∧ token.text ∉ labelWords)
    : ∃ after,
        readMessageItem scope tokens = readField scope tokens
        ∧ readLabel tokens = (marking.label, after)
        ∧ Spells (piece :: pieces) after rest := by
  cases marking with
  | none =>
      obtain ⟨token, after, rfl, fits, more⟩ := h
      obtain ⟨start, noLabel⟩ := free token fits
      refine ⟨token :: after, readMessageItem_of_field start, ?_, token, after, rfl, fits, more⟩
      simp only [labelWords, List.mem_cons, List.not_mem_nil, or_false, not_or] at noLabel
      simp [readLabel, noLabel, label]
  | optional =>
      obtain ⟨token, after, rfl, fits, more⟩ := h
      have word : token.text = "optional" := fits
      refine ⟨after, readMessageItem_of_field (by rw [word]; decide), ?_, more⟩
      rw [readLabel, word, if_neg (by decide), if_pos (by decide), label]
  | required =>
      obtain ⟨token, after, rfl, fits, more⟩ := h
      have word : token.text = "required" := fits
      refine ⟨after, readMessageItem_of_field (by rw [word]; decide), ?_, more⟩
      rw [readLabel, word, if_neg (by decide), if_pos (by decide), label]
  | repeated =>
      obtain ⟨token, after, rfl, fits, more⟩ := h
      have word : token.text = "repeated" := fits
      refine ⟨after, readMessageItem_of_field (by rw [word]; decide), ?_, more⟩
      rw [readLabel, word, if_pos rfl, label]

/-- A field is read back from its pieces, with the label that its marking stands for. -/
theorem readMessageItem_field {scope : String} {marking : Marking} {type : FieldType}
    {name : Identifier} {number : Numeral} {tokens rest : Tokens}
    (h : Spells (Item.field marking type name number).pieces tokens rest)
    : readMessageItem scope tokens
      = .ok (.field ⟨name.1.text, name.1.position, some type.1.text, marking.label, number.value⟩,
          rest) := by
  have free (token : Token) (fits : (Piece.token type).Fits token)
      : token.text ∉ itemStarts ∧ token.text ∉ labelWords :=
    fits ▸ FieldType.free type
  obtain ⟨_, isField, label, _, _, rfl, rfl, _, _, rfl, rfl, last⟩ := marking.reads scope h free
  have noGroup : type.1.text ≠ "group" := by
    rintro same
    exact type.2.2 (same ▸ by decide)
  rw [isField, readField, label]
  simp only [startsWith, List.head?_cons, Option.any_some, beq_eq_false_iff_ne.mpr noGroup,
    Bool.false_eq_true, if_false, bind_eq_ok, pure_eq_ok]
  exact
    ⟨_, expect_of_accepts type.2.1, _, expect_of_accepts name.2, _,
      readNumber_spells (by decide) last, rfl⟩

/-- A group is read up to its body, as a field and the beginning of a message. -/
theorem readMessageItem_group {scope : String} {marking : Marking} {name : Identifier}
    {number : Numeral} {items : List Item} {tokens rest : Tokens}
    (h : Spells (Item.group marking name number items).pieces tokens rest)
    : ∃ after,
        readMessageItem scope tokens
          = .ok (.message name.1
              (some (.ofGroup scope name.1 marking.label.isRepeated number.value)), after)
        ∧ Spells (bodyPieces items) after rest := by
  rw [Item.pieces, List.append_assoc] at h
  have free (token : Token) (fits : (Piece.word "group").Fits token)
      : token.text ∉ itemStarts ∧ token.text ∉ labelWords := by
    have word : token.text = "group" := fits
    rw [word]
    decide
  obtain ⟨_, isField, label, keyword, _, rfl, isGroup, _, _, rfl, rfl, more⟩ :=
    marking.reads scope h free
  have word : keyword.text = "group" := isGroup
  obtain ⟨equals, _, rfl, he, digits, _, rfl, hd, brace, after, rfl, hb, body⟩ := more
  have read : readNumber "\x7b" (equals :: digits :: brace :: after) = .ok (number.value, after) :=
    readNumber_spells (by decide)
      ⟨equals, _, rfl, he, digits, _, rfl, hd, brace, _, rfl, hb, rfl⟩
  refine ⟨after, ?_, body⟩
  rw [isField, readField, label]
  simp only [startsWith, List.head?_cons, Option.any_some, word, BEq.rfl, if_true, List.tail_cons,
    readGroup, bind_eq_ok, pure_eq_ok]
  exact ⟨_, expect_of_accepts name.2, _, read, rfl⟩

/-- A map field is read back from its pieces, with the message for its entries. -/
theorem readMessageItem_map {scope : String} {key value : TypeName} {name : Identifier}
    {number : Numeral} {tokens rest : Tokens}
    (h : Spells (Item.map key value name number).pieces tokens rest)
    : readMessageItem scope tokens
      = .ok (.mapField (.ofMap scope name.1.text name.1.position number.value)
          (mapEntry (entryName scope name.1.text) name.1.position key.1 value.1), rest) := by
  obtain ⟨keyword, after, rfl, isMap, opening, _, rfl, opens, _, _, rfl, rfl, more⟩ := h
  obtain ⟨comma, _, rfl, separates, _, _, rfl, rfl, closing, _, rfl, closes, more⟩ := more
  obtain ⟨_, _, rfl, rfl, last⟩ := more
  have word : keyword.text = "map" := isMap
  have start (rest : Tokens)
      : readMessageItem scope (keyword :: rest) = readMapField scope rest := by
    simp [readMessageItem, word]
  rw [start]
  simp only [readMapField, bind_eq_ok, pure_eq_ok]
  exact
    ⟨_, expectWord_of_text opens, _, expect_of_accepts key.2, _, expectWord_of_text separates, _,
      expect_of_accepts value.2, _, expectWord_of_text closes, _, expect_of_accepts name.2, _,
      readNumber_spells (by decide) last, rfl⟩

/-- A nested message is read up to its body. -/
theorem readMessageItem_message {scope : String} {name : Identifier} {items : List Item}
    {tokens rest : Tokens} (h : Spells (Item.message name items).pieces tokens rest)
    : ∃ after,
        readMessageItem scope tokens = .ok (.message name.1 none, after)
        ∧ Spells (bodyPieces items) after rest := by
  rw [Item.pieces] at h
  obtain ⟨keyword, _, rfl, isMessage, _, _, rfl, rfl, brace, after, rfl, opens, body⟩ := h
  have word : keyword.text = "message" := isMessage
  have start (rest : Tokens) : readMessageItem scope (keyword :: rest) = readMessageName rest := by
    simp [readMessageItem, word]
  refine ⟨after, ?_, body⟩
  rw [start]
  simp only [readMessageName, bind_eq_ok, pure_eq_ok]
  exact ⟨_, expect_of_accepts name.2, _, expectWord_of_text opens, rfl⟩

/-- A nested enum is read back from its pieces. -/
theorem readMessageItem_enum {scope : String} {enum : Enum} {tokens rest : Tokens}
    (h : Spells (Item.enum enum).pieces tokens rest)
    : readMessageItem scope tokens = .ok (.enum (enum.definition scope), rest) := by
  rw [Item.pieces] at h
  obtain ⟨keyword, after, rfl, isEnum, more⟩ := h
  have word : keyword.text = "enum" := isEnum
  have read := enum.reads scope more
  simp [readMessageItem, word, read, Except.map]

/-- The body that some items are. -/
def bodyOf (scope : String) (items : List Item) : MessageBody :=
  ⟨items.flatMap (Item.fields scope), bodyDefinitions scope items⟩

/-- A brace closes a message. -/
theorem readMessageItem_close {scope : String} {token : Token} {rest : Tokens}
    (h : token.text = "\x7d")
    : readMessageItem scope (token :: rest) = .ok (.close, rest) := by
  rw [readMessageItem, if_pos h]

mutual
/-- An item is read with what it adds to its message, by induction on what is nested in it. -/
theorem Item.reads : ∀ (item : Item) {scope : String} {tokens after : Tokens},
    Spells item.pieces tokens after
    → readMessageItem scope tokens >>= goOn scope
      = (readBody scope after).map (addBefore (item.fields scope) (item.definitions scope))
  | .field .., scope, tokens, after, h => bind_of_eq_ok (readMessageItem_field h)
  | .map .., scope, tokens, after, h => bind_of_eq_ok (readMessageItem_map h)
  | .group marking name number items, scope, tokens, after, h => by
      obtain ⟨between, read, body⟩ := readMessageItem_group h
      have inner := readBody_items items (inScope scope name.1.text) body
      rw [bind_of_eq_ok read, goOn, bind_of_eq_ok inner]
      rfl
  | .message name items, scope, tokens, after, h => by
      obtain ⟨between, read, body⟩ := readMessageItem_message h
      have inner := readBody_items items (inScope scope name.1.text) body
      rw [bind_of_eq_ok read, goOn, bind_of_eq_ok inner]
      rfl
  | .enum inner, scope, tokens, after, h => bind_of_eq_ok (readMessageItem_enum h)

/-- The body of a message is read, one item after the other. -/
theorem readBody_items : ∀ (items : List Item) (scope : String) {tokens rest : Tokens},
    Spells (bodyPieces items) tokens rest
    → readBody scope tokens = .ok (bodyOf scope items, rest)
  | [], scope, tokens, rest, h => by
      obtain ⟨brace, _, rfl, closes, rfl⟩ := h
      rw [readBody_eq, bind_of_eq_ok (readMessageItem_close closes)]
      rfl
  | item :: others, scope, tokens, rest, h => by
      rw [bodyPieces, spells_append] at h
      obtain ⟨between, first, more⟩ := h
      rw [readBody_eq, item.reads first, readBody_items others scope more]
      rfl
end

-----------------------------------------------------------------------------------------
-- Declarations
-----------------------------------------------------------------------------------------

/-- A package is read back from its pieces, as the first one of its file. -/
theorem readPackage_spells {name : TypeName} {tokens rest : Tokens}
    (h : Spells [.token name, .word ";"] tokens rest)
    : readPackage true tokens = .ok (.package name.1, rest) := by
  obtain ⟨_, _, rfl, rfl, ending, _, rfl, ends, rfl⟩ := h
  simp only [readPackage, if_true, bind_eq_ok, pure_eq_ok]
  exact ⟨_, expect_of_accepts name.2, _, expectWord_of_text ends, rfl⟩

/-- The package in Go is read back from the pieces of its option. -/
theorem readOption_spells {value : Quoted} {tokens rest : Tokens}
    (h : Spells [.word "go_package", .word "=", .word value.text, .word ";"] tokens rest)
    : readOption tokens = .ok (.goPackage value.value, rest) := by
  obtain ⟨option, _, rfl, isPackage, equals, _, rfl, he, string, _, rfl, hs, more⟩ := h
  obtain ⟨ending, _, rfl, ends, rfl⟩ := more
  have word : option.text = "go_package" := isPackage
  rw [readOption, if_pos word]
  simp only [bind_eq_ok, pure_eq_ok]
  exact
    ⟨_, expectWord_of_text he, _, expectString_of_text value hs, _, expectWord_of_text ends, rfl⟩

/-- A message of a file is read back from its pieces with all that is nested in it. -/
theorem readMessage_spells {name : Identifier} {items : List Item} {tokens rest : Tokens}
    (h : Spells (.token name :: .word "\x7b" :: bodyPieces items) tokens rest)
    : readMessage tokens
      = .ok (.definitions ((bodyOf name.1.text items).definitions name.1.text name.1.position),
          rest) := by
  obtain ⟨_, _, rfl, rfl, brace, _, rfl, opens, body⟩ := h
  simp only [readMessage_eq, bind_eq_ok, pure_eq_ok]
  exact
    ⟨_, expect_of_accepts name.2, _, expectWord_of_text opens, _, readBody_items items _ body, rfl⟩

/-- Names at the level of the file have nothing in front of them. -/
theorem inScope_file (name : String) : inScope "" name = name :=
  if_pos rfl

/-- The declaration that a part is read as. -/
def Part.declaration : Part → Declaration
  | .package name => .package name.1
  | .goPackage value => .goPackage value.value
  | .message name items => .definitions (Part.message name items).definitions
  | .enum inner => .definitions (Part.enum inner).definitions
  | .service inner => .service inner.toService

/-- Each part of a file is read as its declaration, by the keyword that it begins with. -/
theorem Part.reads (part : Part) {isFirst : Bool} {token : Token} {after rest : Tokens}
    (word : token.text = part.keyword) (first : part.package? ≠ none → isFirst = true)
    (h : Spells part.operands after rest)
    : readDeclaration isFirst token after = .ok (part.declaration, rest) := by
  rw [readDeclaration, word]
  cases part with
  | package name =>
      have alone : isFirst = true := first (by simp [package?])
      simp [keyword, alone, readPackage_spells h, declaration]
  | goPackage value => simp [keyword, readOption_spells h, declaration]
  | message name items =>
      simp [keyword, readMessage_spells h, declaration, definitions, Item.definitions,
        inScope_file]
      rfl
  | enum inner =>
      simp [keyword, inner.reads "" h, declaration, definitions, Item.definitions]
      rfl
  | service inner => simp [keyword, inner.reads h, declaration]

-----------------------------------------------------------------------------------------
-- Files
-----------------------------------------------------------------------------------------

/-- A file with what a part adds to it. -/
def Part.addTo (file : File) (part : Part) : File :=
  {
    dialect := file.dialect,
    package := part.package?.or file.package,
    goPackage := part.goPackage?.or file.goPackage,
    definitions := file.definitions ++ part.definitions,
    services := file.services ++ part.service?.toList
  }

/-- The declaration of a part adds to a file what the part does. -/
theorem Part.declare_declaration (part : Part) (file : File)
    : file.declare part.declaration = part.addTo file := by
  cases part <;>
    simp [declaration, File.declare, addTo, package?, goPackage?, definitions, service?]

/-- What a file becomes with some parts, in whatever order they are. -/
theorem foldl_addTo (parts : List Part) (file : File)
    : parts.foldl Part.addTo file
      = {
          dialect := file.dialect,
          package := (parts.filterMap Part.package?).getLast?.or file.package,
          goPackage := (parts.filterMap Part.goPackage?).getLast?.or file.goPackage,
          definitions := file.definitions ++ parts.flatMap Part.definitions,
          services := file.services ++ parts.filterMap Part.service?
        } := by
  induction parts using List.reverseRecOn with
  | nil => simp
  | append_singleton front last ih =>
      have single {β : Type} (f : Part → Option β) : [last].filterMap f = (f last).toList := by
        cases found : f last <;> simp [found]
      have onlyOne {β : Type} (found : Option β) : found.toList.getLast? = found := by
        cases found <;> rfl
      rw [List.foldl_append, ih]
      simp [Part.addTo, single, onlyOne, List.getLast?_append, Option.or_assoc]

/-- Where the package is named at most once, a part that names it is the first to do so. -/
theorem Part.addTo_onePackage {part : Part} {others : List Part} {file : File}
    (one : (file.package.toList ++ (part :: others).filterMap Part.package?).length ≤ 1)
    : (part.package? ≠ none → file.package.isNone = true)
      ∧ ((part.addTo file).package.toList ++ others.filterMap Part.package?).length ≤ 1 := by
  cases named : part.package? with
  | none => simpa [addTo, named] using one
  | some name =>
      rw [List.filterMap_cons_some named] at one
      cases before : file.package with
      | none => simpa [addTo, named, before] using one
      | some other => simp [before] at one

/-- No part begins like the end of the text or like the header. -/
theorem Part.keyword_ne (part : Part) : part.keyword ≠ "" ∧ part.keyword ≠ "syntax" := by
  cases part <;> simp [keyword]

/-- By induction on the list of parts. -/
theorem readDeclarations_parts {parts : List Part} {file : File} {tokens : Tokens}
    (one : (file.package.toList ++ parts.filterMap Part.package?).length ≤ 1)
    (h : Spells (parts.flatMap Part.pieces ++ [.word ""]) tokens [])
    : readDeclarations file tokens = .ok (parts.foldl Part.addTo file, []) := by
  induction parts generalizing file tokens with
  | nil =>
      obtain ⟨token, _, rfl, word, rfl⟩ := h
      have ends : token.text = "" := word
      rw [readDeclarations_eq, if_pos ends]
      rfl
  | cons part others ih =>
      rw [List.flatMap_cons, List.append_assoc, spells_append] at h
      obtain ⟨between, ⟨token, after, rfl, word, operands⟩, more⟩ := h
      obtain ⟨first, oneLater⟩ := Part.addTo_onePackage one
      have text : token.text = part.keyword := word
      rw [readDeclarations_eq, if_neg (text.trans_ne part.keyword_ne.1),
        bind_of_eq_ok (part.reads text first operands)]
      change readDeclarations (file.declare part.declaration) between = _
      rw [part.declare_declaration, ih oneLater more]
      rfl

/-- A header is read as the dialect that it names. -/
theorem readDialect_header {header : Header} {tokens rest : Tokens}
    (h : Spells header.pieces tokens rest)
    : readDialect tokens = .ok (header.dialect, rest) := by
  obtain ⟨keyword, _, rfl, isSyntax, equals, _, rfl, he, string, _, rfl, hs, more⟩ := h
  obtain ⟨ending, _, rfl, ends, rfl⟩ := more
  have word : keyword.text = "syntax" := isSyntax
  have known : Dialect.ofName? header.name.value = some header.dialect := by
    rw [header.names]
    cases header.dialect <;> rfl
  rw [readDialect, if_pos word]
  simp only [bind_eq_ok]
  refine ⟨_, expectWord_of_text he, _, expectString_of_text header.name hs, ?_⟩
  simp only [known, bind_eq_ok]
  exact ⟨_, expectWord_of_text ends, rfl⟩

/-- Without a header the dialect is the older one, and nothing is taken. -/
theorem readDialect_parts {parts : List Part} {tokens : Tokens}
    (h : Spells (parts.flatMap Part.pieces ++ [.word ""]) tokens [])
    : readDialect tokens = .ok (.proto2, tokens) := by
  have other {token : Token} {rest : Tokens} (text : token.text ≠ "syntax")
      : readDialect (token :: rest) = .ok (.proto2, token :: rest) := by
    rw [readDialect, if_neg text]
  cases parts with
  | nil =>
      obtain ⟨token, _, rfl, word, -⟩ := h
      have text : token.text = "" := word
      exact other (text.trans_ne (by decide))
  | cons part others =>
      rw [List.flatMap_cons, List.append_assoc] at h
      obtain ⟨token, _, rfl, word, -⟩ := h
      have text : token.text = part.keyword := word
      exact other (text.trans_ne part.keyword_ne.2)

/-- Every source is read back from its tokens. -/
theorem parse_source (source : Source) (tokens : Tokens)
    (h : List.Forall₂ Piece.Fits source.pieces tokens)
    : parse tokens = .ok source.file := by
  have spelled := Spells.of_forall₂ h
  rw [pieces, List.append_assoc] at spelled
  obtain ⟨between, first, parts⟩ := spells_append.mp spelled
  have dialect
      : readDialect tokens = .ok ((source.header.map Header.dialect).getD .proto2, between) := by
    cases named : source.header with
    | none =>
        rw [named] at first
        cases first
        exact readDialect_parts parts
    | some header =>
        rw [named] at first
        exact readDialect_header first
  let start : File :=
    { File.empty with dialect := (source.header.map Header.dialect).getD .proto2 }
  have declarations
      : readDeclarations start between = .ok (source.parts.foldl Part.addTo start, []) :=
    readDeclarations_parts source.onePackage parts
  have file : source.parts.foldl Part.addTo start = source.file := by
    rw [foldl_addTo, Source.file, head?_eq_getLast? source.onePackage]
    simp [start, File.empty]
  rw [parse, readFile, bind_of_eq_ok dialect, ← file]
  exact map_eq_ok.mpr ⟨_, declarations, rfl⟩

/-- Every source can be written. -/
theorem fits_plain (source : Source)
    : List.Forall₂ Piece.Fits source.pieces (source.pieces.map Piece.plain) :=
  List.forall₂_map_right_iff.mpr (List.forall₂_same.mpr fun piece _ => by cases piece <;> rfl)

/-- A package with a message that holds another, which has a map and a group. -/
def depot : Source :=
  {
    header := some ⟨.proto2, ⟨"\"proto2\"", "proto2", by decide, by decide⟩, rfl⟩,
    parts :=
      [
        .message ⟨⟨"Shelf", ⟨1, 28⟩⟩, by decide⟩
          [
            .field .repeated ⟨⟨".depot.Shelf.Box", ⟨1, 45⟩⟩, by decide⟩
              ⟨⟨"boxes", ⟨1, 62⟩⟩, by decide⟩ ⟨"1", 1, by decide, by decide⟩,
            .message ⟨⟨"Box", ⟨1, 81⟩⟩, by decide⟩
              [
                .map ⟨⟨"string", ⟨1, 91⟩⟩, by decide⟩ ⟨⟨"int32", ⟨1, 99⟩⟩, by decide⟩
                  ⟨⟨"counts", ⟨1, 106⟩⟩, by decide⟩ ⟨"007", 7, by decide, by decide⟩,
                .group .optional ⟨⟨"Label", ⟨1, 135⟩⟩, by decide⟩ ⟨"2", 2, by decide, by decide⟩ []
              ]
          ],
        .package ⟨⟨"depot", ⟨1, 162⟩⟩, by decide⟩,
        .service
          ⟨⟨⟨"Store", ⟨1, 177⟩⟩, by decide⟩,
            [
              ⟨⟨⟨"Find", ⟨1, 189⟩⟩, by decide⟩, ⟨⟨"Shelf", ⟨1, 195⟩⟩, by decide⟩,
                ⟨⟨"Shelf.Box", ⟨1, 211⟩⟩, by decide⟩⟩
            ]⟩
      ],
    onePackage := by decide
  }

/-- The depot can be written and is read back, with its nested messages under their full names. -/
theorem parse_depot
    : List.Forall₂ Piece.Fits depot.pieces (depot.pieces.map Piece.plain)
      ∧ parse (depot.pieces.map Piece.plain) = .ok depot.file
      ∧ depot.file.definitions.map (·.name)
        = ["Shelf", "Shelf.Box", "Shelf.Box.CountsEntry", "Shelf.Box.Label"] :=
  ⟨fits_plain depot, parse_source depot _ (fits_plain depot), by decide⟩

end Source

end GrpcMock.Proto
