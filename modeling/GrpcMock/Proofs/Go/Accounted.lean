import GrpcMock.Proofs.Go.Mentions
import GrpcMock.Proofs.Go.Shape
import GrpcMock.Proofs.Text.Lines

/-!
What is written accounts for what is imported. While a literal is written, the imports grow by the
packages of the identifiers that stand in its text, and by no others.
-/

namespace GrpcMock.Go

open GrpcMock.Text (isNameChar)
open GrpcMock.Text.Quoted (hexDigit isNameChar_hexDigit)
open Rendering (run_bind_eq_ok run_pure_eq_ok run_write_eq_ok)

-----------------------------------------------------------------------------------------
-- Growing imports
-----------------------------------------------------------------------------------------

namespace Imports

/-- The imports that come later have, besides all packages that were there, those of some
identifiers. -/
structure Grows (before after : Imports) (idents : List GoIdent) : Prop where
  kept : Extends before after
  wellNamed : before.WellNamed → after.WellNamed
  listed
    : ∀ path,
        (after.name? path).isSome
        ↔ (before.name? path).isSome
          ∨ ∃ ident ∈ idents, ¬before.IsLocal ident ∧ ident.importPath = path

namespace Grows

variable {first second third before after : Imports} {idents others : List GoIdent}

/-- Imports that stay as they are have grown by nothing. -/
theorem refl (imports : Imports) : Grows imports imports [] where
  kept := .refl imports
  wellNamed := id
  listed path := by simp

/-- Imports that grow twice grow by the identifiers of both steps. -/
theorem trans (hf : Grows first second idents) (hs : Grows second third others)
    : Grows first third (idents ++ others) where
  kept := hf.kept.trans hs.kept
  wellNamed h := hs.wellNamed (hf.wellNamed h)
  listed path := by
    simp only [hs.listed, hf.listed, hf.kept.isLocal_iff, List.mem_append, or_and_right, exists_or,
      or_assoc]

/-- The order of the identifiers does not matter. -/
theorem swap (h : Grows before after (idents ++ others)) : Grows before after (others ++ idents) :=
  ⟨h.kept, h.wellNamed, fun path => by
    simp only [h.listed path, List.mem_append, or_comm (a := _ ∈ idents)]⟩

/-- An identifier brings in its package, if that is another one. -/
theorem spell {ident : GoIdent} {name : String} (h : before.spell ident = (name, after))
    : Grows before after [ident] := by
  obtain ⟨-, rfl⟩ := Prod.ext_iff.mp h
  refine ⟨before.extends_spell ident, fun named => named.spell ident, fun path => ?_⟩
  simp only [List.mem_singleton, exists_eq_left]
  by_cases within : before.IsLocal ident
  · rw [spell_of_isLocal within]
    simp [within]
  · rw [spell_of_not_isLocal within]
    by_cases same : path = ident.importPath
    · rw [same, before.name?_importPath ident.importPath]
      simp [within]
    · rw [before.name?_importPath_of_ne same]
      simp [Ne.symm same]

end Grows

end Imports

open Imports (Extends Grows)

/-- From some imports to others something is written. The imports grow by the packages that it
mentions, and it mentions the same with all that is imported later. -/
def Accounted (before after : Imports) (written : Imports → List GoIdent → Prop) : Prop :=
  ∃ idents, Grows before after idents ∧ ∀ last, Extends after last → written last idents

namespace Accounted

variable {before between after : Imports} {first second both : Imports → List GoIdent → Prop}

/-- What mentions nothing can be written without imports. -/
theorem pure (h : ∀ last, first last []) : Accounted before before first :=
  ⟨[], .refl before, fun last _ => h last⟩

/-- What is written is accounted for under a weaker description as well. -/
theorem imp (h : Accounted before after first)
    (imp : ∀ last idents, first last idents → second last idents)
    : Accounted before after second := by
  obtain ⟨idents, grows, written⟩ := h
  exact ⟨idents, grows, fun last later => imp last idents (written last later)⟩

/-- Two things are written, and stand in the text one after the other. -/
theorem andThen (hf : Accounted before between first) (hs : Accounted between after second)
    (joined : ∀ last idents others,
      first last idents → second last others → both last (idents ++ others))
    : Accounted before after both := by
  obtain ⟨idents, grows, written⟩ := hf
  obtain ⟨others, growsToo, writtenToo⟩ := hs
  refine ⟨idents ++ others, grows.trans growsToo, fun last later => ?_⟩
  exact joined last idents others (written last (growsToo.kept.trans later)) (writtenToo last later)

/-- Two things are written, and what comes later stands before the other in the text. -/
theorem andBefore (hf : Accounted before between first) (hs : Accounted between after second)
    (joined : ∀ last idents others,
      first last idents → second last others → both last (others ++ idents))
    : Accounted before after both := by
  obtain ⟨idents, grows, written⟩ := hf
  obtain ⟨others, growsToo, writtenToo⟩ := hs
  refine ⟨others ++ idents, (grows.trans growsToo).swap, fun last later => ?_⟩
  exact joined last idents others (written last (growsToo.kept.trans later)) (writtenToo last later)

/-- How an identifier is written. -/
theorem spelled {ident : GoIdent} {name : String} (h : before.spell ident = (name, after))
    : Accounted before after fun last idents =>
        idents = [ident] ∧ last.spell ident = (name, last) := by
  obtain ⟨rfl, rfl⟩ := Prod.ext_iff.mp h
  exact ⟨[ident], .spell rfl, fun _ later => ⟨rfl, Imports.spell_again later⟩⟩

/-- The spelling of an identifier mentions it and brings in its package. -/
theorem identifier {ident : GoIdent} {name : String} (h : before.spell ident = (name, after))
    (word : IsWord ident.name)
    : Accounted before after (Written name) :=
  (spelled h).imp fun _ _ ⟨only, again⟩ => only ▸ .identifier word again

/-- So does a pointer to a member of an enum. -/
theorem enumPointer {ident : GoIdent} {name : String} (h : before.spell ident = (name, after))
    (word : IsWord ident.name)
    : Accounted before after (Written (name ++ ".Enum()")) :=
  (spelled h).imp fun _ _ ⟨only, again⟩ => only ▸ .enumPointer word again

variable {text : String} {parts more : List String}

/-- No parts mention nothing. -/
theorem nil : Accounted before before (WrittenEach []) :=
  pure fun _ => .nil

/-- A part and those after it mention what each of them does. -/
theorem cons (hf : Accounted before between (Written text))
    (hs : Accounted between after (WrittenEach parts))
    : Accounted before after (WrittenEach (text :: parts)) :=
  hf.andThen hs fun _ _ _ => .cons

/-- Parts that are written after others grow the imports further. -/
theorem append (hf : Accounted before between (WrittenEach parts))
    (hs : Accounted between after (WrittenEach more))
    : Accounted before after (WrittenEach (parts ++ more)) :=
  hf.andThen hs fun _ _ _ => .append

end Accounted

-----------------------------------------------------------------------------------------
-- Scalars
-----------------------------------------------------------------------------------------

variable {imports before after : Imports} {idents : List GoIdent}

/-- A number with a fixed number of places has digits on both sides of its point. -/
theorem isFloat_renderFixed (places : Nat) (negative : Bool) (significand : Nat) (exponent : Int)
    : IsFloat (Decimal.renderFixed places negative significand exponent) := by
  have signed (sign : List Char) (signed : sign = [] ∨ sign = ['-']) (units : Nat)
      : IsFloat (sign ++ Decimal.renderUnits places units) := by
    unfold Decimal.renderUnits
    rw [← List.append_assoc]
    refine .intro signed Nat.toDigits_ne_nil fun c member => ?_
    simp only [List.mem_append, List.mem_replicate] at member
    rcases member with whole | ⟨-, rfl⟩ | fraction
    · exact Decimal.isDigit_toDigits whole
    · decide
    · exact Decimal.isDigit_toDigits fraction
  unfold Decimal.renderFixed
  dsimp only
  split
  · exact signed ['-'] (.inr rfl) _
  · exact signed [] (.inl rfl) _

/-- The digits and the sign of a number can stand in code. -/
theorem isCode_toString (number : Int) : IsCode (toString number) := by
  intro c member
  rcases Decimal.mem_toString member with digit | rfl
  · simp [isCode, isNameChar, Char.isAlphanum, digit]
  · rfl

/-- A byte is written as a word of hexadecimal digits. -/
theorem isWord_byteLiteral (byte : UInt8) : IsWord (byteLiteral byte) := by
  have bound := byte.toNat_lt
  have high : isNameChar (hexDigit (byte.toNat / 16)) := isNameChar_hexDigit (by omega)
  have low : isNameChar (hexDigit (byte.toNat % 16)) :=
    isNameChar_hexDigit (Nat.mod_lt _ (by decide))
  unfold IsWord byteLiteral
  rw [String.toList_ofList]
  simp only [List.forall_mem_cons, high, low]
  exact ⟨rfl, rfl, trivial, trivial, List.forall_mem_nil _⟩

/-- The conversion of a number that is not finite mentions nothing besides the number. -/
theorem Written.special {text : String} (h : Written text imports idents)
    (format : Binary.Format)
    : Written (special format text) imports idents := by
  unfold Go.special
  split
  · rw [String.append_assoc]
    exact (h.closed (by decide)).opened (by decide)
  · exact h

/-- A type with elements in braces mentions what they do. -/
theorem WrittenEach.composite {parts : List String} {type : String} {others : List GoIdent}
    (hp : WrittenEach parts imports others) (ht : Written type imports idents)
    : Written (composite type parts) imports (idents ++ others) := by
  have inside : Written (joined parts ++ "\x7d") imports others :=
    (hp.intercalate (by decide)).closed (by decide)
  rw [Go.composite, String.append_assoc, String.append_assoc]
  exact ht.append (inside.continued (by decide))

/-- The literal of a double or float is accounted for, whether it is finite or not. -/
theorem floatLiteral_accounted {format : Binary.Format} {bits : Nat} {text : String}
    (run : (floatLiteral .imports format bits).run.run before = (.ok text, after))
    : Accounted before after (Written text) := by
  unfold floatLiteral Speller.writeFrom at run
  split at run
  · obtain ⟨rfl, rfl⟩ := run_pure_eq_ok.mp run
    exact .pure fun _ => .float (isFloat_renderFixed ..)
  · simp only [run_bind_eq_ok, run_write_eq_ok, run_pure_eq_ok] at run
    obtain ⟨name, _, spelled, rfl, rfl⟩ := run
    exact (Accounted.identifier spelled (by decide)).imp fun _ _ written =>
      (written.closed (by decide)).special format
  · simp only [run_bind_eq_ok, run_write_eq_ok, run_pure_eq_ok] at run
    obtain ⟨name, _, spelled, rfl, rfl⟩ := run
    refine (Accounted.identifier spelled (by decide)).imp fun _ _ written =>
      (written.closed ?_).special format
    split <;> decide

/-- The literal of a scalar mentions what makes it a value that is not finite, if anything. -/
theorem scalar_accounted {field : FieldSchema} {value : Value} {text : String}
    (fits : value.isOf field.kind)
    (run : (literal .imports (some field) value).run.run before = (.ok text, after))
    : Accounted before after (Written text) := by
  unfold literal at run
  cases value with
  | float32 | float64 => exact floatLiteral_accounted run
  | bool value =>
      obtain ⟨rfl, rfl⟩ := run_pure_eq_ok.mp run
      exact .pure fun _ => .word (by cases value <;> decide)
  | int32 value | int64 value =>
      obtain ⟨rfl, rfl⟩ := run_pure_eq_ok.mp run
      exact .pure fun _ => .code (isCode_toString value.toInt)
  | uint32 value | uint64 value =>
      obtain ⟨rfl, rfl⟩ := run_pure_eq_ok.mp run
      exact .pure fun _ => .code (isCode_toString value.toNat)
  | string value =>
      obtain ⟨rfl, rfl⟩ := run_pure_eq_ok.mp run
      exact .pure fun _ => .quoted value
  | bytes value =>
      obtain ⟨rfl, rfl⟩ := run_pure_eq_ok.mp run
      have bytes (part : String) (member : part ∈ value.map byteLiteral) : IsWord part := by
        obtain ⟨byte, -, rfl⟩ := List.mem_map.mp member
        exact isWord_byteLiteral byte
      exact .pure fun _ => (WrittenEach.words bytes).composite (.code (by decide))
  | enum | message | list | map => cases fits

/-- The key of a map mentions nothing, by its type. -/
theorem keyLiteral_written (key : MapKey) : Written (keyLiteral key) imports [] := by
  cases key with
  | bool value => exact .word (by cases value <;> decide)
  | int32 value | int64 value => exact .code (isCode_toString value.toInt)
  | uint32 value | uint64 value => exact .code (isCode_toString value.toNat)
  | string value => exact .quoted value

-----------------------------------------------------------------------------------------
-- Literals
-----------------------------------------------------------------------------------------

/-- The names of scalar types can stand in code. -/
theorem isCode_goType {kind : FieldKind} {type : String} (known : kind.goType? = some type)
    : IsCode type := by
  cases kind <;> cases known <;> decide

/-- The functions that make pointers have words for names. -/
theorem isWord_exported {kind : FieldKind} {type : String} (known : kind.goType? = some type)
    (notBytes : kind ≠ .bytes)
    : IsWord (Naming.exported type) := by
  cases kind <;> cases known <;> first | contradiction | decide +kernel

/-- What stands after the name of a field or after a key. -/
theorem Written.labelled {left right : String} (hl : Written left imports [])
    (hr : Written right imports idents)
    : Written (left ++ ": " ++ right) imports idents := by
  rw [String.append_assoc]
  exact hl.append (hr.continued (by decide))

/-- A call mentions what its function and its argument do. -/
theorem Written.call {function argument : String} {others : List GoIdent}
    (hf : Written function imports idents) (ha : Written argument imports others)
    : Written (function ++ "(" ++ argument ++ ")") imports (idents ++ others) := by
  rw [String.append_assoc, String.append_assoc]
  exact hf.append ((ha.closed (by decide)).continued (by decide))

/-- The type of a map mentions what the types of its keys and values do. -/
theorem Written.mapType {key value : String} {others : List GoIdent}
    (hk : Written key imports idents) (hv : Written value imports others)
    : Written ("map[" ++ key ++ "]" ++ value) imports (idents ++ others) := by
  rw [String.append_assoc, String.append_assoc]
  exact (hk.append (hv.continued (by decide))).opened (by decide)

variable {package : Package}

/-- The type of a field is accounted for, by its shape. -/
theorem TypeShape.accounted (h : package.WellFormed) (named : package.GoNamed)
    {field : FieldSchema} (inside : package.HasField field) {type : String}
    (shape : TypeShape .imports field before type after)
    : Accounted before after (Written type) := by
  cases shape with
  | scalar known => exact .pure fun _ => .code (isCode_goType known)
  | enum _ found spelled => exact .identifier spelled (named.enums _ (inside.enum_mem h found))
  | message _ found spelled =>
      have name := Accounted.identifier spelled (named.messages _ (inside.message_mem h found))
      exact name.imp fun _ _ written => written.opened (by decide)

/-- A value that stands in no list or map is accounted for, by its shape. -/
theorem PlainShape.accounted (h : package.WellFormed) (named : package.GoNamed)
    {field : FieldSchema} (inside : package.HasField field) {value : Value} {text : String}
    (shape : PlainShape .imports field value before text after)
    : Accounted before after (Written text) := by
  cases shape with
  | enum _ found listed spelled =>
      have word := named.members _ (inside.enum_mem h found) _ (EnumSchema.mem_of_member? listed)
      exact .identifier spelled word
  | scalar fits run => exact scalar_accounted fits run

mutual
/-- What is written for a message accounts for what is imported for it, by induction on the shape
of it. -/
theorem MessageShape.accounted (h : package.WellFormed) (named : package.GoNamed)
    {schema : MessageSchema} {fields : MessageValue} {before after : Imports} {text : String}
    : MessageShape .imports schema fields before text after
      → schema ∈ package.messages
      → Accounted before after (Written text)
  | .message arguments spelled, member => by
      -- The fields are written before the type of the message, which stands in front of them.
      have type := Accounted.identifier spelled (named.messages schema member)
      exact (arguments.accounted h named member).andBefore type fun _ _ _ parts type =>
        parts.composite type

/-- So do the fields of a message, one by one. -/
theorem ArgumentShapes.accounted (h : package.WellFormed) (named : package.GoNamed)
    {schema : MessageSchema} {fields : MessageValue} {before after : Imports} {parts : List String}
    : ArgumentShapes .imports schema fields before parts after
      → schema ∈ package.messages
      → Accounted before after (WrittenEach parts)
  | .nil, _ => .nil
  | .cons declared first rest, member => by
      have inside : package.HasField _ := ⟨schema, member, declared⟩
      exact (first.accounted h named inside).andThen (rest.accounted h named member)
        fun _ _ _ head tail => .cons (.labelled (.word (named.fields _ inside)) head) tail

/-- So does a field, as a map, a list or a single value. -/
theorem FieldShape.accounted (h : package.WellFormed) (named : package.GoNamed)
    {field : FieldSchema} {value : Value} {before after : Imports} {text : String}
    : FieldShape .imports field value before text after
      → package.HasField field
      → Accounted before after (Written text)
  | .map _ entry keyTyped valueTyped each, inside => by
      obtain ⟨keyInside, valueInside⟩ := inside.entry h entry
      have key := keyTyped.accounted h named keyInside
      have value := valueTyped.accounted h named valueInside
      have entries := each.accounted h named valueInside
      exact (key.andThen value fun _ _ _ => .mapType).andThen entries fun _ _ _ type parts =>
        parts.composite type
  | .list _ _ typed each, inside => by
      have type := typed.accounted h named inside
      exact type.andThen (each.accounted h named inside) fun _ _ _ type parts =>
        parts.composite (type.opened (by decide))
  | .message _ _ _ found written, inside => by
      have message := written.accounted h named (inside.message_mem h found)
      exact message.imp fun _ _ written => written.opened (by decide)
  | .enumPointer _ _ _ _ found listed spelled, inside => by
      have word := named.members _ (inside.enum_mem h found) _ (EnumSchema.mem_of_member? listed)
      exact .enumPointer spelled word
  | .scalarPointer _ _ _ notBytes kind fits run spelled, _ => by
      have helper := Accounted.identifier spelled (isWord_exported kind notBytes)
      have scalar := scalar_accounted fits run
      exact scalar.andBefore helper fun _ _ _ text helper => helper.call text
  | .plain _ _ _ written, inside => written.accounted h named inside

/-- So does an element, which may be a message of its own. -/
theorem ElementShape.accounted (h : package.WellFormed) (named : package.GoNamed)
    {field : FieldSchema} {value : Value} {before after : Imports} {text : String}
    : ElementShape .imports field value before text after
      → package.HasField field
      → Accounted before after (Written text)
  | .message _ found written, inside => by
      have message := written.accounted h named (inside.message_mem h found)
      exact message.imp fun _ _ written => written.opened (by decide)
  | .plain written, inside => written.accounted h named inside

/-- So do the elements of a list, one by one. -/
theorem ElementShapes.accounted (h : package.WellFormed) (named : package.GoNamed)
    {field : FieldSchema} {values : List Value} {before after : Imports} {parts : List String}
    : ElementShapes .imports field values before parts after
      → package.HasField field
      → Accounted before after (WrittenEach parts)
  | .nil, _ => .nil
  | .cons first rest, inside =>
      (first.accounted h named inside).cons (rest.accounted h named inside)

/-- So do the entries of a map, each with its key and its value. -/
theorem EntryShapes.accounted (h : package.WellFormed) (named : package.GoNamed)
    {field : FieldSchema} {entries : MapValue} {before after : Imports} {parts : List String}
    : EntryShapes .imports field entries before parts after
      → package.HasField field
      → Accounted before after (WrittenEach parts)
  | .nil, _ => .nil
  | .cons first rest, inside =>
      (first.accounted h named inside).andThen (rest.accounted h named inside)
        fun _ _ _ head tail => .cons (.labelled (keyLiteral_written _) head) tail
end

-----------------------------------------------------------------------------------------
-- Agreement
-----------------------------------------------------------------------------------------

namespace Imports

end Imports

end GrpcMock.Go
