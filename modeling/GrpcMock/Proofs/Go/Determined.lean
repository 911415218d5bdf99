import GrpcMock.Proofs.Go.Apart
import GrpcMock.Proofs.Payload.Conformance
import GrpcMock.Proofs.Schema.WellFormed
import Mathlib.Logic.Equiv.List

/-!
A literal determines its value. Items that can be told apart make up values that can be told apart,
so no two values of a field have the same literal.
-/

namespace GrpcMock.Go

variable {spell : GoIdent → String} {package : Package}

mutual
/-- Values of a field can be told apart, by induction on why one of them fits. -/
theorem field_apart (spells : PlainSpelling spell) (wellFormed : package.WellFormed)
    (named : package.Named)
    (goNames : ∀ schema ∈ package.messages, (schema.fields.map (·.goName)).Nodup)
    {field : FieldSchema} {value : Value}
    : FittingField field value
      → package.HasField field
      → ¬value.HoldsFloat
      → TellsApart (literalText spell field) (ExactField field) value
  | @FittingField.map _ key value entries isMap entry ascending keys values, inside, floatFree => by
      intro other first second after rest exact leftText rightText _ _ same
      obtain ⟨fits, floatFreeToo⟩ := exact
      cases fits with
      | list notMap => exact absurd isMap notMap
      | single notMap => exact absurd isMap notMap
      | @map _ _ _ others _ entryToo ascendingToo keysToo valuesToo =>
          cases entry.symm.trans entryToo
          obtain ⟨type, parts, typed, each, rfl⟩ := literalText_map entry ascending leftText
          obtain ⟨_, pieces, typedToo, eachToo, rfl⟩ :=
            literalText_map entry ascendingToo rightText
          cases typed.symm.trans typedToo
          have here (pair : MapKey × Value) (member : pair ∈ entries) : ExactEntry key value pair :=
            ⟨keys pair member, values pair member, fun float => floatFree (.map member float)⟩
          have there (pair : MapKey × Value) (member : pair ∈ others) : ExactEntry key value pair :=
            ⟨keysToo pair member, valuesToo pair member,
              fun float => floatFreeToo (.map member float)⟩
          have apart (pair : MapKey × Value) (member : pair ∈ entries)
              : TellsApart (entryText spell value) (ExactEntry key value) pair := by
            refine entry_apart (keys pair member) (values pair member) ?_
            exact value_apart spells wellFormed named goNames (values pair member)
              (inside.entry wellFormed entry).2 (here pair member).2.2
          rw [composite_apart apart here there (fun _ _ => entry_opens) each eachToo same]
  | @FittingField.list _ items notMap isList each, inside, floatFree => by
      intro other first second after rest exact leftText rightText _ _ same
      obtain ⟨fits, floatFreeToo⟩ := exact
      cases fits with
      | map isMap => exact absurd isMap notMap
      | single _ notList => exact absurd isList notList
      | @list _ others _ _ eachToo =>
          obtain ⟨type, parts, typed, written, rfl⟩ := literalText_list leftText
          obtain ⟨_, pieces, typedToo, writtenToo, rfl⟩ := literalText_list rightText
          cases typed.symm.trans typedToo
          have here (item : Value) (member : item ∈ items) : ExactValue field item :=
            ⟨each item member, fun float => floatFree (.list member float)⟩
          have there (item : Value) (member : item ∈ others) : ExactValue field item :=
            ⟨eachToo item member, fun float => floatFreeToo (.list member float)⟩
          have apart (item : Value) (member : item ∈ items)
              : TellsApart (elementText spell field) (ExactValue field) item := by
            refine element_apart (each item member) ?_
            exact value_apart spells wellFormed named goNames (each item member) inside
              (here item member).2
          rw [composite_apart apart here there (fun _ _ => element_opens spells) written writtenToo
            same]
  | .single notMap notList fits, inside, floatFree => by
      intro other first second after rest exact
      obtain ⟨fitsToo, floatFreeToo⟩ := exact
      cases fitsToo with
      | map isMap => exact absurd isMap notMap
      | list _ isList => exact absurd isList notList
      | single _ _ fitsToo =>
          exact value_apart spells wellFormed named goNames fits inside floatFree
            ⟨fitsToo, floatFreeToo⟩

/-- A value without floating-point numbers is known by its text, by induction on how it fits its
field. -/
theorem value_apart (spells : PlainSpelling spell) (wellFormed : package.WellFormed)
    (named : package.Named)
    (goNames : ∀ schema ∈ package.messages, (schema.fields.map (·.goName)).Nodup)
    {field : FieldSchema} {value : Value}
    : FittingValue field value
      → package.HasField field
      → ¬value.HoldsFloat
      → TellsApart (literalText spell field) (ExactValue field) value
  | @FittingValue.message _ schema message kind found fields, inside, floatFree => by
      intro other first second after rest exact leftText rightText _ _ same
      obtain ⟨fits, floatFreeToo⟩ := exact
      cases fits with
      | enum isEnum => rcases kind with kind | kind <;> cases kind.symm.trans isEnum
      | scalar fits =>
          obtain ⟨notMessage, notGroup, _⟩ := Value.kind_of_isOf fits
          exact absurd kind (not_or.mpr ⟨notMessage, notGroup⟩)
      | @message _ _ others _ foundToo fieldsToo =>
          cases found.symm.trans foundToo
          obtain ⟨parts, written, rfl⟩ := literalText_message found leftText
          obtain ⟨pieces, writtenToo, rfl⟩ := literalText_message found rightText
          have member := inside.message_mem wellFormed found
          have here := exact_of_fitting fields fun _ set float => floatFree (.message set float)
          have there := exact_of_fitting fieldsToo fun _ set float =>
            floatFreeToo (.message set float)
          have apart := message_apart spells wellFormed named goNames fields member
            fun _ set float => floatFree (.message set float)
          have opens (pair : UInt32 × Value) (part : String) (exact : ExactArgument schema pair)
              (written : argumentText spell schema pair = .ok part)
              : Opens part :=
            argument_opens (wellFormed.messages schema member) (named.within member) exact written
          rw [composite_apart apart here there opens written writtenToo same]
  | @FittingValue.enum _ enum ordinal kind found member, inside, floatFree => by
      intro other first second after rest exact leftText rightText leftEnds rightEnds same
      obtain ⟨fits, floatFreeToo⟩ := exact
      cases fits with
      | message isMessage => rcases isMessage with other | other <;> cases kind.symm.trans other
      | scalar fits => exact absurd kind (Value.kind_of_isOf fits).2.2
      | enum _ foundToo =>
          obtain ⟨_, member, listed, numbered, rfl⟩ := literalText_enum leftText
          obtain ⟨_, memberToo, listedToo, numberedToo, rfl⟩ := literalText_enum rightText
          cases found.symm.trans listed
          cases found.symm.trans listedToo
          have enumNamed := named.enums enum (inside.enum_mem wellFormed found)
          rw [enumNamed.ordinal_inj numbered numberedToo (spells.apart leftEnds rightEnds same)]
  | .scalar fits, _, floatFree => by
      intro other first second after rest exact leftText rightText leftEnds rightEnds same
      exact scalar_apart fits (exact.1.isOf fits) floatFree leftText rightText leftEnds rightEnds
        same

/-- The fields that are set in a message can be told apart from others of its schema. -/
theorem message_apart (spells : PlainSpelling spell) (wellFormed : package.WellFormed)
    (named : package.Named)
    (goNames : ∀ schema ∈ package.messages, (schema.fields.map (·.goName)).Nodup)
    {schema : MessageSchema} {message : MessageValue}
    : FittingMessage schema message
      → schema ∈ package.messages
      → (∀ pair ∈ message, ¬pair.2.HoldsFloat)
      → ∀ pair ∈ message, TellsApart (argumentText spell schema) (ExactArgument schema) pair
  | .nil, _, _, _, set => by cases set
  | .set declared first rest, member, floatFree, pair, set => by
      rw [List.forall_mem_cons] at floatFree
      rcases List.mem_cons.mp set with rfl | later
      · refine argument_apart spells (wellFormed.messages schema member) (named.within member)
          (goNames schema member) declared first ?_
        exact field_apart spells wellFormed named goNames first ⟨schema, member, declared⟩
          floatFree.1
      · exact message_apart spells wellFormed named goNames rest member floatFree.2 pair later
end

/-- Values of a field that hold no float and have the same literal are equal, if fields of one
message differ in their Go names. It is enough that the values fit, as all values do that conform:
the fields set in a message may be in any order. Maps are kept in the order of their keys, so equal
maps are those with the same entries. -/
theorem eq_of_literal {text written : String} {field : FieldSchema} {left right : Value}
    (compiled : Proto.compile text = .ok package) (inside : package.HasField field)
    (goNames : ∀ schema ∈ package.messages, (schema.fields.map (·.goName)).Nodup)
    (spells : PlainSpelling spell) (hl : FittingField field left) (hr : FittingField field right)
    (leftFloatFree : ¬left.HoldsFloat) (rightFloatFree : ¬right.HoldsFloat)
    (leftText : (literal (.ofFunction spell) (some field) left).outcome = .ok written)
    (rightText : (literal (.ofFunction spell) (some field) right).outcome = .ok written)
    : left = right :=
  field_apart spells (Proto.compile_wellFormed compiled) (Proto.compile_named compiled) goNames hl
    inside leftFloatFree ⟨hr, rightFloatFree⟩ leftText rightText closed_nil closed_nil rfl

-----------------------------------------------------------------------------------------
-- Items of a parcel
-----------------------------------------------------------------------------------------

open GrpcMock.Payload (compile_parcel itemSchema itemsEntrySchema mem_parcelPackage parcelPackage
  parcelSchema parcelText)

/-- Every identifier has a number, which is a plain way to spell it. -/
def numberOf (ident : GoIdent) : Nat :=
  Encodable.encode (ident.name.toList.map Char.toNat, ident.importPath.toList.map Char.toNat)

/-- An identifier is known by its number. -/
theorem numberOf_injective : Function.Injective numberOf := by
  have chars {left right : String}
      (same : left.toList.map Char.toNat = right.toList.map Char.toNat)
      : left = right :=
    String.toList_inj.mp (List.map_injective_iff.mpr (fun _ _ => Char.toNat_inj.mp) same)
  intro left right same
  obtain ⟨names, paths⟩ := Prod.mk.inj (Encodable.encode_injective same)
  obtain ⟨name, importPath⟩ := left
  rw [GoIdent.mk.injEq]
  exact ⟨chars names, chars paths⟩

def numeral (ident : GoIdent) : String :=
  toString (numberOf ident : Int)

/-- So identifiers can be spelled by numbers. -/
theorem numeral_plain : PlainSpelling numeral where
  injective _ _ same := numberOf_injective (Int.ofNat.inj (Decimal.toString_inj same))
  nonempty ident none :=
    Decimal.toString_ne_nil (numberOf ident) (String.toList_eq_nil_iff.mpr none)
  plain ident c member := by
    have sort := Decimal.mem_toString member
    intro delimiter
    simp only [List.mem_cons, List.not_mem_nil, or_false] at delimiter
    rcases delimiter with rfl | rfl | rfl | rfl | rfl <;> revert sort <;> decide

def itemsField : FieldSchema :=
  { FieldSchema.single "items" 1 .message with isMap := true, message := some itemsEntrySchema }

def priceField : FieldSchema :=
  { FieldSchema.single "price_cents" 1 .int64 with hasPresence := true }

def codeField : FieldSchema :=
  { FieldSchema.single "code" 2 .bytes with hasPresence := true }

/-- An item at a price. -/
def pricedItem : Value :=
  .message [(1, .int64 1250), (2, .bytes [1, 2])]

def itemsLiteral (spell : GoIdent → String) : String :=
  let item := spell ⟨"Parcel_Item", ""⟩
  let price := "PriceCents: " ++ (spell ⟨"Int64", protoPath⟩ ++ "(" ++ "1250" ++ ")")
  let code := "Code: " ++ composite "[]byte" ["0x01", "0x02"]
  composite ("map[int32]" ++ ("*" ++ item))
    ["-3: " ++ ("&" ++ composite item []), "7: " ++ ("&" ++ composite item [price, code])]

/-- An item of which nothing is known, and one at a price. -/
def parcelItems : MapValue :=
  [(.int32 (-3), .message []), (.int32 7, pricedItem)]

/-- The items of a parcel fit their field. -/
theorem parcelItems_fit : FittingField itemsField (.map parcelItems) := by
  have price : FittingField priceField (.int64 1250) :=
    .single Bool.false_ne_true Bool.false_ne_true (.scalar rfl)
  have code : FittingField codeField (.bytes [1, 2]) :=
    .single Bool.false_ne_true Bool.false_ne_true (.scalar rfl)
  have coded : FittingMessage itemSchema [(codeField.number, .bytes [1, 2])] :=
    .set (List.mem_cons_of_mem _ (List.mem_cons_self ..)) code .nil
  have priced
      : FittingMessage itemSchema
          [(priceField.number, .int64 1250), (codeField.number, .bytes [1, 2])] :=
    .set (List.mem_cons_self ..) price coded
  have keys : ∀ pair ∈ parcelItems, pair.1.isOf .int32 := by decide
  refine .map rfl rfl (by decide) keys ?_
  simp only [parcelItems, List.forall_mem_cons]
  exact ⟨.message (.inl rfl) rfl .nil, .message (.inl rfl) rfl priced, nofun⟩

/-- They hold no floating-point number. -/
theorem parcelItems_floatFree : ¬(Value.map parcelItems).HoldsFloat := by
  simp only [parcelItems, pricedItem, Value.holdsFloat_map, Value.holdsFloat_message, List.mem_cons,
    List.not_mem_nil, or_false, exists_eq_or_imp, exists_eq_left, not_or]
  exact ⟨nofun, nofun, nofun⟩

/-- A map has one literal, in whatever order its entries are put in. -/
theorem eq_of_literal_items
    : Proto.compile parcelText = .ok parcelPackage
      ∧ parcelPackage.HasField itemsField
      ∧ (∀ schema ∈ parcelPackage.messages, (schema.fields.map (·.goName)).Nodup)
      ∧ PlainSpelling numeral
      ∧ (FittingField itemsField (.map parcelItems) ∧ ¬(Value.map parcelItems).HoldsFloat)
      ∧ (literal (.ofFunction numeral) (some itemsField) (.map parcelItems)).outcome
        = .ok (itemsLiteral numeral)
      ∧ Value.map parcelItems = .map (Sorted.ofList parcelItems.reverse) := by
  have inside : parcelPackage.HasField itemsField :=
    ⟨parcelSchema, mem_parcelPackage, List.mem_cons_self ..⟩
  have goNames : ∀ schema ∈ parcelPackage.messages, (schema.fields.map (·.goName)).Nodup := by
    decide +kernel
  exact ⟨compile_parcel, inside, goNames, numeral_plain, ⟨parcelItems_fit, parcelItems_floatFree⟩,
    rfl, eq_of_literal compile_parcel inside goNames numeral_plain parcelItems_fit parcelItems_fit
      parcelItems_floatFree parcelItems_floatFree rfl rfl⟩

end GrpcMock.Go
