import GrpcMock.Proofs.Go.Items
import GrpcMock.Proofs.Proto.Identifiers

/-!
The literal of a value tells the value. Every piece of a literal shows where it ends, so what stands
in braces can be taken apart, by induction on the value.
-/

namespace GrpcMock

/-- The name of a field in Go is made of characters of names. -/
theorem FieldSchema.Named.goName_isNameChar {field : FieldSchema} (h : FieldSchema.Named field)
    : ∀ c ∈ field.goName.toList, Text.isNameChar c := by
  rw [h.goName]
  exact Naming.goCamelCase_isNameChar fun c member _ =>
    Proto.isIdentifier_isNameChar h.name c member

/-- The values of an enum are told by the Go names of their members. -/
theorem EnumSchema.Named.ordinal_inj {enum : EnumSchema} (h : enum.Named) {left right : Int32}
    {member other : EnumMember} (hl : enum.member? left = some member)
    (hr : enum.member? right = some other) (same : member.ident = other.ident)
    : left = right := by
  obtain ⟨natural, listed⟩ := EnumSchema.member?_eq_some.mp hl
  obtain ⟨naturalToo, listedToo⟩ := EnumSchema.member?_eq_some.mp hr
  have idents : (enum.members.map (·.ident))[left.toInt.toNat]?
      = (enum.members.map (·.ident))[right.toInt.toNat]? := by
    rw [List.getElem?_map, List.getElem?_map, listed, listedToo, Option.map_some, Option.map_some,
      same]
  have small : left.toInt.toNat < (enum.members.map (·.ident)).length := by
    rw [List.length_map]
    exact (List.getElem?_eq_some_iff.mp listed).1
  have positions : left.toInt.toNat = right.toInt.toNat :=
    (List.getElem?_inj small h.idents).mp idents
  apply Int32.toInt_inj.mp
  omega

namespace Go

/-- A way to spell identifiers that keeps them apart and uses none of the characters that stand
after a value or around it. Letters, digits, underscores and dots are all allowed. -/
structure PlainSpelling (spell : GoIdent → String) : Prop where
  injective : Function.Injective spell
  nonempty : ∀ ident, spell ident ≠ ""
  plain : ∀ ident, ∀ c ∈ (spell ident).toList, c ∉ [',', ':', '(', ')', '\x7d']

section Apart

variable {spell : GoIdent → String} {field : FieldSchema} {after rest : List Char}

-----------------------------------------------------------------------------------------
-- Identifiers
-----------------------------------------------------------------------------------------

namespace PlainSpelling

/-- An identifier is known by its spelling, where no name goes on. -/
theorem apart (h : PlainSpelling spell) {left right : GoIdent} (leftEnds : Closed after)
    (rightEnds : Closed rest)
    (same : (spell left).toList ++ after = (spell right).toList ++ rest)
    : left = right := by
  have run := Text.run_append_inj (h.plain left) (h.plain right) (leftEnds.ends (by simp))
    (rightEnds.ends (by simp)) same
  exact h.injective (String.toList_inj.mp run.1)

/-- The spelling of an identifier does not begin with a closing brace. -/
theorem opens (h : PlainSpelling spell) (ident : GoIdent) : Opens (spell ident) := by
  have some : (spell ident).toList ≠ [] := fun none =>
    h.nonempty ident (String.toList_eq_nil_iff.mp none)
  obtain ⟨c, tail, chars⟩ := List.exists_cons_of_ne_nil some
  have plain := h.plain ident c (chars ▸ List.mem_cons_self ..)
  refine ⟨c, tail, chars, ?_⟩
  rintro rfl
  exact plain (by simp)

/-- An identifier with a method of its own that is called. The dot before the method may be a part
of an identifier as well, but the parenthesis after it may not. -/
theorem call_apart (h : PlainSpelling spell) {left right : GoIdent}
    (same
      : (spell left).toList ++ (".Enum()".toList ++ after)
        = (spell right).toList ++ (".Enum()".toList ++ rest))
    : left = right := by
  have method (ident : GoIdent)
      : ∀ c ∈ (spell ident).toList ++ ".Enum".toList, c ∉ [',', ':', '(', ')', '\x7d'] := by
    have suffix : ∀ c ∈ ".Enum".toList, c ∉ [',', ':', '(', ')', '\x7d'] := by simp
    intro c member
    rcases List.mem_append.mp member with member | member
    · exact h.plain ident c member
    · exact suffix c member
  have called
      : (spell left).toList ++ ".Enum".toList ++ ("()".toList ++ after)
        = (spell right).toList ++ ".Enum".toList ++ ("()".toList ++ rest) := by
    simpa using same
  have run := Text.run_append_inj (method left) (method right) (by simp) (by simp) called
  exact h.injective (String.toList_inj.mp (List.append_cancel_right run.1))

end PlainSpelling

/-- Taking off what is put around values leaves texts that are closed. -/
theorem wrapped_apart (spells : PlainSpelling spell) {left right : Value} {first second : String}
    (alike : left.kindName = right.kindName) (leftText : literalText spell field left = .ok first)
    (rightText : literalText spell field right = .ok second) (leftEnds : Closed after)
    (rightEnds : Closed rest)
    (same
      : (wrapped spell field left first).toList ++ after
        = (wrapped spell field right second).toList ++ rest)
    : ∃ ends endsToo,
        Closed ends ∧ Closed endsToo ∧ first.toList ++ ends = second.toList ++ endsToo := by
  have inside
      : first.toList ++ ((wrapping spell field left).2.toList ++ after)
        = second.toList ++ ((wrapping spell field left).2.toList ++ rest) := by
    rw [wrapped, wrapped, ← wrapping_congr alike] at same
    simpa [List.append_assoc] using same
  rcases wrapping_back spell field left with back | back | ⟨back, isEnum⟩
  · rw [back] at inside
    exact ⟨after, rest, leftEnds, rightEnds, inside⟩
  · rw [back] at inside
    exact ⟨')' :: after, ')' :: rest, closed_cons (by simp), closed_cons (by simp), inside⟩
  · cases Value.SameKind.of_kindName alike <;> simp [Value.kindName] at isEnum
    obtain ⟨_, member, _, _, rfl⟩ := literalText_enum leftText
    obtain ⟨_, other, _, _, rfl⟩ := literalText_enum rightText
    rw [back] at inside
    have equal := spells.call_apart inside
    exact ⟨[], [], closed_nil, closed_nil, by rw [equal]⟩

-----------------------------------------------------------------------------------------
-- Items
-----------------------------------------------------------------------------------------

/-- Values that fit a field and hold no float. -/
def ExactField (field : FieldSchema) (value : Value) : Prop :=
  FittingField field value ∧ ¬value.HoldsFloat

/-- Single values that fit a field and hold no float. -/
def ExactValue (field : FieldSchema) (value : Value) : Prop :=
  FittingValue field value ∧ ¬value.HoldsFloat

def ExactArgument (schema : MessageSchema) (argument : UInt32 × Value) : Prop :=
  ∃ field ∈ schema.fields, field.number = argument.1 ∧ ExactField field argument.2

def ExactEntry (key value : FieldSchema) (entry : MapKey × Value) : Prop :=
  entry.1.isOf key.kind ∧ ExactValue value entry.2

/-- The fields of a message that fits have literals that tell them, unless they hold floating-point
numbers. -/
theorem exact_of_fitting {schema : MessageSchema} {message : MessageValue}
    (fits : FittingMessage schema message) (floatFree : ∀ pair ∈ message, ¬pair.2.HoldsFloat)
    : ∀ pair ∈ message, ExactArgument schema pair := by
  intro pair set
  obtain ⟨field, declared, number, fieldFits⟩ := fits.field_of_mem pair set
  exact ⟨field, declared, number, fieldFits, floatFree pair set⟩

/-- What a text begins with does not depend on what follows it. -/
theorem opens_append {text more : String} (h : Opens text) : Opens (text ++ more) := by
  obtain ⟨c, tail, chars, other⟩ := h
  exact ⟨c, tail ++ more.toList, by rw [String.toList_append, chars, List.cons_append], other⟩

/-- The text of an element does not begin with a closing brace. -/
theorem element_opens (spells : PlainSpelling spell) {value : Value} {part : String}
    (exact : ExactValue field value) (written : elementText spell field value = .ok part)
    : Opens part := by
  obtain ⟨text, inner, same⟩ := bind_eq_ok.mp written
  cases same
  obtain ⟨fits, floatFree⟩ := exact
  cases fits with
  | message => exact ⟨'&', _, String.toList_append, by decide⟩
  | enum =>
      obtain ⟨_, member, _, _, rfl⟩ := literalText_enum inner
      exact spells.opens member.ident
  | scalar fits =>
      have plain : addressed value text = text := by
        cases value with
        | message => cases fits
        | _ => rfl
      rw [plain]
      exact scalar_opens fits floatFree inner

/-- Neither does that of an entry. -/
theorem entry_opens {key value : FieldSchema} {entry : MapKey × Value} {part : String}
    (exact : ExactEntry key value entry) (written : entryText spell value entry = .ok part)
    : Opens part := by
  obtain ⟨text, _, same⟩ := bind_eq_ok.mp written
  cases same
  exact opens_append (opens_append (key_opens exact.1))

/-- Elements of a list can be told apart as values of their field can. -/
theorem element_apart {value : Value} (fits : FittingValue field value)
    (inner : TellsApart (literalText spell field) (ExactValue field) value)
    : TellsApart (elementText spell field) (ExactValue field) value := by
  intro other first second after rest exact leftText rightText leftEnds rightEnds same
  obtain ⟨text, written, ⟨⟩⟩ := bind_eq_ok.mp leftText
  obtain ⟨textToo, writtenToo, ⟨⟩⟩ := bind_eq_ok.mp rightText
  have alike : value.kindName = other.kindName := fits.kindName.trans exact.1.kindName.symm
  have inside : text.toList ++ after = textToo.toList ++ rest := by
    rw [addressed_congr alike, addressed_eq, addressed_eq other textToo] at same
    simpa [List.append_assoc] using same
  exact inner exact written writtenToo leftEnds rightEnds inside

/-- Entries of a map can be told apart: a key ends at the colon after it. -/
theorem entry_apart {key value : FieldSchema} {entry : MapKey × Value}
    (keyFits : entry.1.isOf key.kind) (fits : FittingValue value entry.2)
    (inner : TellsApart (literalText spell value) (ExactValue value) entry.2)
    : TellsApart (entryText spell value) (ExactEntry key value) entry := by
  intro other first second after rest exact leftText rightText leftEnds rightEnds same
  obtain ⟨text, written, ⟨⟩⟩ := bind_eq_ok.mp leftText
  obtain ⟨textToo, writtenToo, ⟨⟩⟩ := bind_eq_ok.mp rightText
  have pieces
      : (keyLiteral entry.1).toList
          ++ ':' :: ' ' :: ((addressed entry.2 text).toList ++ after)
        = (keyLiteral other.1).toList
          ++ ':' :: ' ' :: ((addressed other.2 textToo).toList ++ rest) := by
    simpa using same
  have keys : entry.1 = other.1 :=
    key_apart keyFits exact.1 (closed_cons (by simp)) (closed_cons (by simp)) pieces
  rw [keys] at pieces
  have values : (addressed entry.2 text).toList ++ after
      = (addressed other.2 textToo).toList ++ rest := by
    simpa using pieces
  refine Prod.ext keys (element_apart fits inner exact.2 ?_ ?_ leftEnds rightEnds values)
  · exact bind_eq_ok.mpr ⟨text, written, rfl⟩
  · exact bind_eq_ok.mpr ⟨textToo, writtenToo, rfl⟩

section Arguments

variable {schema : MessageSchema}

/-- The text of a field in a message is its name, a colon and its value with what is put around
it. -/
theorem argumentText_eq_ok (wellFormed : schema.WellFormed) (declared : field ∈ schema.fields)
    {value : Value} {part : String}
    (written : argumentText spell schema (field.number, value) = .ok part)
    : ∃ text,
        literalText spell field value = .ok text
        ∧ part = field.goName ++ ": " ++ wrapped spell field value text := by
  rw [argumentText, wellFormed.fieldNumbered? declared] at written
  obtain ⟨text, inner, same⟩ := bind_eq_ok.mp written
  rw [outcome_assigned] at same
  exact ⟨text, inner, (Except.ok.inj same).symm⟩

/-- So it does not begin with a closing brace either. -/
theorem argument_opens (wellFormed : schema.WellFormed)
    (named : ∀ field ∈ schema.fields, FieldSchema.Named field) {argument : UInt32 × Value}
    {part : String} (exact : ExactArgument schema argument)
    (written : argumentText spell schema argument = .ok part)
    : Opens part := by
  obtain ⟨number, value⟩ := argument
  obtain ⟨field, declared, rfl, _⟩ := exact
  obtain ⟨_, _, rfl⟩ := argumentText_eq_ok wellFormed declared written
  refine opens_append ?_
  cases chars : field.goName.toList with
  | nil => exact ⟨':', [' '], by rw [String.toList_append, chars]; rfl, by decide⟩
  | cons c tail =>
      have nameChar := (named field declared).goName_isNameChar c (chars ▸ List.mem_cons_self ..)
      refine opens_append ⟨c, tail, chars, ?_⟩
      rintro rfl
      exact absurd nameChar (by decide)

/-- Fields of a message can be told apart as their values can: a Go name ends at the colon after
it, and no two fields have the same. -/
theorem argument_apart (spells : PlainSpelling spell) (wellFormed : schema.WellFormed)
    (named : ∀ field ∈ schema.fields, FieldSchema.Named field)
    (goNames : (schema.fields.map (·.goName)).Nodup) (declared : field ∈ schema.fields)
    {value : Value} (fits : FittingField field value)
    (inner : TellsApart (literalText spell field) (ExactField field) value)
    : TellsApart (argumentText spell schema) (ExactArgument schema) (field.number, value) := by
  rintro ⟨number, value'⟩ first second after rest ⟨other, declaredToo, rfl, exact⟩ leftText
    rightText leftEnds rightEnds same
  obtain ⟨text, written, rfl⟩ := argumentText_eq_ok wellFormed declared leftText
  obtain ⟨textToo, writtenToo, rfl⟩ := argumentText_eq_ok wellFormed declaredToo rightText
  have pieces
      : field.goName.toList ++ ':' :: ' ' :: ((wrapped spell field value text).toList ++ after)
        = other.goName.toList
          ++ ':' :: ' ' :: ((wrapped spell other value' textToo).toList ++ rest) := by
    simpa using same
  have colon : ¬Text.isNameChar ':' := by decide
  have run := Text.run_append_inj (p := (Text.isNameChar ·))
    (named field declared).goName_isNameChar (named other declaredToo).goName_isNameChar
    (by simpa using colon) (by simpa using colon) pieces
  have fields : field = other :=
    List.inj_on_of_nodup_map goNames declared declaredToo (String.toList_inj.mp run.1)
  subst fields
  obtain ⟨ends, endsToo, closed, closedToo, inside⟩ :=
    wrapped_apart spells (fits.kindName_eq exact.1) written writtenToo leftEnds rightEnds
      (List.cons.inj (List.cons.inj run.2).2).2
  rw [inner exact written writtenToo closed closedToo inside]

end Arguments

end Apart

end Go

end GrpcMock
