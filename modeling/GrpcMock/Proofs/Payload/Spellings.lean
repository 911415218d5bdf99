import GrpcMock.Proofs.Payload.RoundTrip

/-!
The two names of a field stand for each other. Where fields can be told apart by their names, and no
object gives a field by both, members may go by either name at every depth: this decides neither on
whether a message is read nor on which.
-/

namespace GrpcMock.Payload

-----------------------------------------------------------------------------------------
-- Objects that stand for messages
-----------------------------------------------------------------------------------------

/-- What a field is given holds the payload of a message: it is that payload, or has it as an item
or as the value of an entry. -/
inductive HoldsMessage : FieldSchema → Json → MessageSchema → Json → Prop
  | single {field : FieldSchema} {schema : MessageSchema} {payload : Json}
      (notMap : ¬field.isMap) (notList : ¬field.isList) (found : field.message = some schema)
    : HoldsMessage field payload schema payload
  | item {field : FieldSchema} {schema : MessageSchema} {items : List Json} {item : Json}
      (notMap : ¬field.isMap) (isList : field.isList) (found : field.message = some schema)
      (inside : item ∈ items)
    : HoldsMessage field (.array items) schema item
  | entry {field key value : FieldSchema} {schema : MessageSchema} {members : List (String × Json)}
      {member : String × Json} (isMap : field.isMap)
      (entry : field.entryFields? = some (key, value)) (found : value.message = some schema)
      (inside : member ∈ members)
    : HoldsMessage field (.object members) schema member.2

/-- A field that holds a message has the schema of one. -/
theorem HoldsMessage.message_ne_none {field : FieldSchema} {schema : MessageSchema}
    {payload next : Json} (h : HoldsMessage field payload schema next)
    : field.message ≠ none := by
  cases h with
  | single _ _ found => simp [found]
  | item _ _ found => simp [found]
  | entry _ entry _ _ =>
      obtain ⟨_, found, -⟩ := FieldSchema.entryFields?_mem entry
      simp [found]

/-- A payload of a message has another one at some depth in it, or is the same. -/
inductive Reaches : MessageSchema → Json → MessageSchema → Json → Prop
  | self {schema : MessageSchema} {payload : Json} : Reaches schema payload schema payload
  | member {outer middle inner : MessageSchema} {members : List (String × Json)}
      {member : String × Json} {field : FieldSchema} {next last : Json} (inside : member ∈ members)
      (declared : field ∈ outer.fields) (named : IsNamed field member.1)
      (holds : HoldsMessage field member.2 middle next) (further : Reaches middle next inner last)
    : Reaches outer (.object members) inner last

/-- An object has each name once, and gives no field by both of its names. -/
structure NamesOnce (schema : MessageSchema) (members : List (String × Json)) : Prop where
  distinct : (members.map Prod.fst).Nodup
  notBoth
    : ∀ field ∈ schema.fields,
        field.jsonName ∈ members.map Prod.fst
        → field.name ∈ members.map Prod.fst
        → field.jsonName = field.name

/-- That holds of every object that is reached as a message. -/
def NamesOnceWithin (schema : MessageSchema) (payload : Json) : Prop :=
  ∀ inner members, Reaches schema payload inner (.object members) → NamesOnce inner members

/-- Names are given once within an object if they are in the object itself and within what its
fields hold. -/
theorem NamesOnceWithin.of_held {schema : MessageSchema} {members : List (String × Json)}
    (here : NamesOnce schema members)
    (held
      : ∀ member ∈ members,
        ∀ field ∈ schema.fields,
        ∀ inner next, HoldsMessage field member.2 inner next → NamesOnceWithin inner next)
    : NamesOnceWithin schema (.object members)
  | _, _, .self => here
  | inner, others, .member inside declared _ holds further =>
      held _ inside _ declared _ _ holds inner others further

/-- What a field of an object holds can be reached, so names are given once within it as well. -/
theorem NamesOnceWithin.held {schema inner : MessageSchema} {members : List (String × Json)}
    {member : String × Json} {field : FieldSchema} {next : Json}
    (h : NamesOnceWithin schema (.object members)) (inside : member ∈ members)
    (declared : field ∈ schema.fields) (named : IsNamed field member.1)
    (holds : HoldsMessage field member.2 inner next)
    : NamesOnceWithin inner next :=
  fun deeper others further => h deeper others (.member inside declared named holds further)

namespace NamesOnce

variable {schema : MessageSchema} {members : List (String × Json)} {field : FieldSchema}

/-- A field is given by at most one name. -/
theorem name_unique (h : NamesOnce schema members) (declared : field ∈ schema.fields)
    {left right : String} (hl : left ∈ members.map Prod.fst) (hr : right ∈ members.map Prod.fst)
    (leftNamed : IsNamed field left) (rightNamed : IsNamed field right)
    : left = right := by
  rcases leftNamed with rfl | rfl <;> rcases rightNamed with rfl | rfl
  · rfl
  · exact h.notBoth field declared hl hr
  · exact (h.notBoth field declared hr hl).symm
  · rfl

/-- The order of the members does not matter. -/
theorem of_perm {others : List (String × Json)} (h : NamesOnce schema members)
    (arranged : others.Perm members)
    : NamesOnce schema others where
  distinct := (arranged.map Prod.fst).nodup_iff.mpr h.distinct
  notBoth field declared json own :=
    h.notBoth field declared ((arranged.map Prod.fst).mem_iff.mp json)
      ((arranged.map Prod.fst).mem_iff.mp own)

/-- Such an object has for a field what stands under either of its names. -/
theorem memberFor?_eq_some_iff (h : NamesOnce schema members) (declared : field ∈ schema.fields)
    {payload : Json}
    : memberFor? field members = some payload
      ↔ ∃ name, (name, payload) ∈ members ∧ IsNamed field name := by
  constructor
  · exact exists_member_of_memberFor?
  · rintro ⟨name, inside, rfl | rfl⟩
    · exact memberFor?_of_jsonName h.distinct inside
    · by_cases json : field.jsonName ∈ members.map Prod.fst
      · have same := h.notBoth field declared json (List.mem_map_of_mem inside)
        exact memberFor?_of_jsonName h.distinct (same ▸ inside)
      · exact memberFor?_of_name h.distinct json inside

end NamesOnce

-----------------------------------------------------------------------------------------
-- Objects that give the same
-----------------------------------------------------------------------------------------

/-- One member does for the fields of a message what another does: it goes by the names of the same
fields, and the same is read from it. -/
structure Exchanges (schema : MessageSchema) (left right : String × Json) : Prop where
  named : ∀ field ∈ schema.fields, IsNamed field left.1 ↔ IsNamed field right.1
  null : left.2 = .null ↔ right.2 = .null
  reads
    : ∀ field ∈ schema.fields,
        IsNamed field left.1
        → ∀ path value,
          readField field left.2 path = .ok value ↔ readField field right.2 path = .ok value

/-- Two objects whose members do the same. -/
structure Interchangeable (schema : MessageSchema) (left right : List (String × Json)) : Prop where
  leftOnce : NamesOnce schema left
  rightOnce : NamesOnce schema right
  forth : ∀ member ∈ left, ∃ other ∈ right, Exchanges schema member other
  back : ∀ other ∈ right, ∃ member ∈ left, Exchanges schema member other

/-- A member does what it does. -/
theorem Exchanges.refl (schema : MessageSchema) (member : String × Json)
    : Exchanges schema member member :=
  ⟨fun _ _ => .rfl, .rfl, fun _ _ _ _ _ => .rfl⟩

/-- Members that do the same can change places. -/
theorem Exchanges.symm {schema : MessageSchema} {left right : String × Json}
    (h : Exchanges schema left right)
    : Exchanges schema right left where
  named field declared := (h.named field declared).symm
  null := h.null.symm
  reads field declared named path value :=
    (h.reads field declared ((h.named field declared).mpr named) path value).symm

namespace Interchangeable

variable {schema : MessageSchema} {left right : List (String × Json)} {path : String}
  {message : MessageValue}

/-- Members that are exchanged one by one, and then arranged anew. -/
theorem of_changes {changes : List ((String × Json) × String × Json)}
    (before : NamesOnce schema (changes.map Prod.fst))
    (after : NamesOnce schema (changes.map Prod.snd))
    (each : ∀ change ∈ changes, Exchanges schema change.1 change.2)
    (arranged : right.Perm (changes.map Prod.snd))
    : Interchangeable schema (changes.map Prod.fst) right where
  leftOnce := before
  rightOnce := after.of_perm arranged
  forth := by
    rw [List.forall_mem_map]
    exact fun change inside =>
      ⟨change.2, arranged.mem_iff.mpr (List.mem_map_of_mem inside), each change inside⟩
  back := by
    intro other member
    obtain ⟨change, inside, rfl⟩ := List.mem_map.mp (arranged.mem_iff.mp member)
    exact ⟨change.1, List.mem_map_of_mem inside, each change inside⟩

/-- Objects with such members can change places as well. -/
theorem symm (h : Interchangeable schema left right) : Interchangeable schema right left where
  leftOnce := h.rightOnce
  rightOnce := h.leftOnce
  forth other inside :=
    have ⟨member, insideToo, exchanges⟩ := h.back other inside
    ⟨member, insideToo, exchanges.symm⟩
  back member inside :=
    have ⟨other, insideToo, exchanges⟩ := h.forth member inside
    ⟨other, insideToo, exchanges.symm⟩

/-- What one object gives for a field is read as what the other one gives for it. -/
theorem memberFor? (h : Interchangeable schema left right) {field : FieldSchema}
    (declared : field ∈ schema.fields) {payload : Json}
    (given : Payload.memberFor? field left = some payload)
    : ∃ other,
        Payload.memberFor? field right = some other
        ∧ (payload = .null ↔ other = .null)
        ∧ ∀ path value,
          readField field payload path = .ok value ↔ readField field other path = .ok value := by
  obtain ⟨name, inside, named⟩ := (h.leftOnce.memberFor?_eq_some_iff declared).mp given
  obtain ⟨⟨otherName, other⟩, insideToo, exchanges⟩ := h.forth _ inside
  have namedToo := (exchanges.named field declared).mp named
  exact
    ⟨other, (h.rightOnce.memberFor?_eq_some_iff declared).mpr ⟨otherName, insideToo, namedToo⟩,
      exchanges.null, exchanges.reads field declared named⟩

/-- Both objects leave out the same fields. -/
theorem leftOut (h : Interchangeable schema left right) {field : FieldSchema}
    (declared : field ∈ schema.fields) (absent : LeftOut left field)
    : LeftOut right field := by
  intro payload given
  obtain ⟨other, givenToo, null, -⟩ := h.symm.memberFor? declared given
  exact null.mpr (absent other givenToo)

/-- What one of the objects gives to fields the other gives as well, by induction on that. -/
theorem fieldsRead (h : Interchangeable schema left right) {fields : List FieldSchema}
    (included : fields ⊆ schema.fields) (read : FieldsRead left path fields message)
    : FieldsRead right path fields message := by
  induction read with
  | nil => exact .nil
  | skip absent _ ih =>
      rw [List.cons_subset] at included
      exact .skip (h.leftOut included.1 absent) (ih included.2)
  | set given present read _ ih =>
      rw [List.cons_subset] at included
      obtain ⟨other, givenToo, null, reads⟩ := h.memberFor? included.1 given
      exact .set givenToo (null.not.mp present) ((reads _ _).mp read) (ih included.2)

/-- Neither object has a name that no field goes by, if one of them has none. -/
theorem unknownName? (h : Interchangeable schema left right)
    (known : Payload.unknownName? schema.fields left = none)
    : Payload.unknownName? schema.fields right = none := by
  rw [unknownName?_eq_none] at known ⊢
  intro other inside
  obtain ⟨member, insideToo, exchanges⟩ := h.back other inside
  obtain ⟨field, declared, named⟩ := known member insideToo
  exact ⟨field, declared, (exchanges.named field declared).mp named⟩

/-- A message that is read from one object is read from the other. -/
theorem readMessage_imp (h : Interchangeable schema left right) (wellFormed : schema.WellFormed)
    (read : readMessage schema (.object left) path = .ok message)
    : readMessage schema (.object right) path = .ok message := by
  rw [readMessage_object_eq_ok wellFormed.numbers] at read ⊢
  exact ⟨h.unknownName? read.1, h.fieldsRead (List.Subset.refl _) read.2⟩

/-- So both are read as the same messages, or neither is read. -/
theorem readMessage_iff (h : Interchangeable schema left right) (wellFormed : schema.WellFormed)
    : readMessage schema (.object left) path = .ok message
      ↔ readMessage schema (.object right) path = .ok message :=
  ⟨h.readMessage_imp wellFormed, h.symm.readMessage_imp wellFormed⟩

end Interchangeable

-----------------------------------------------------------------------------------------
-- Renaming members
-----------------------------------------------------------------------------------------

mutual
/-- A payload of a message with some members renamed, each from one name of its field to a name of
the same field. The members of an object are arranged anew then. -/
inductive Renamed : MessageSchema → Json → Json → Prop
  | same {schema : MessageSchema} {payload : Json} : Renamed schema payload payload
  | object {schema : MessageSchema} {right : List (String × Json)}
      (changes : List ((String × Json) × String × Json))
      (each : ∀ change ∈ changes, RenamedMember schema change.1 change.2)
      (arranged : right.Perm (changes.map Prod.snd))
    : Renamed schema (.object (changes.map Prod.fst)) (.object right)

/-- A member that is renamed, or renamed within, or neither. -/
inductive RenamedMember : MessageSchema → String × Json → String × Json → Prop
  | same {schema : MessageSchema} {member : String × Json} : RenamedMember schema member member
  | named {schema : MessageSchema} {left right : String × Json} {field : FieldSchema}
      (declared : field ∈ schema.fields) (before : IsNamed field left.1)
      (after : IsNamed field right.1) (within : RenamedField field left.2 right.2)
    : RenamedMember schema left right

/-- What a field is given, with members renamed in the payloads of messages that it holds. The names
of the entries of a map stay. -/
inductive RenamedField : FieldSchema → Json → Json → Prop
  | same {field : FieldSchema} {payload : Json} : RenamedField field payload payload
  | single {field : FieldSchema} {schema : MessageSchema} {left right : Json}
      (notMap : ¬field.isMap) (notList : ¬field.isList) (found : field.message = some schema)
      (message : Renamed schema left right)
    : RenamedField field left right
  | list {field : FieldSchema} {schema : MessageSchema} (changes : List (Json × Json))
      (notMap : ¬field.isMap) (isList : field.isList) (found : field.message = some schema)
      (each : ∀ change ∈ changes, Renamed schema change.1 change.2)
    : RenamedField field (.array (changes.map Prod.fst)) (.array (changes.map Prod.snd))
  | map {field key value : FieldSchema} {schema : MessageSchema}
      (changes : List (String × Json × Json)) (isMap : field.isMap)
      (entry : field.entryFields? = some (key, value)) (found : value.message = some schema)
      (each : ∀ change ∈ changes, Renamed schema change.2.1 change.2.2)
    : RenamedField field
        (.object (changes.map fun change => (change.1, change.2.1)))
        (.object (changes.map fun change => (change.1, change.2.2)))
end

/-- Only null is renamed to null. -/
theorem Renamed.null_iff {schema : MessageSchema} {left right : Json}
    (h : Renamed schema left right)
    : left = .null ↔ right = .null := by
  cases h with
  | same => rfl
  | object => exact iff_of_false nofun nofun

/-- Renaming turns nothing into null. -/
theorem RenamedField.null_iff {field : FieldSchema} {left right : Json}
    (h : RenamedField field left right)
    : left = .null ↔ right = .null := by
  cases h with
  | same => rfl
  | single _ _ _ message => exact message.null_iff
  | list => exact iff_of_false nofun nofun
  | map => exact iff_of_false nofun nofun

section Names

variable {schema : MessageSchema} {left right : String × Json}

/-- Two fields that go by one name are the same. -/
theorem eq_of_isNamed (wellFormed : schema.WellFormed) (apart : schema.NamesApart)
    {field other : FieldSchema} (declared : field ∈ schema.fields)
    (declaredToo : other ∈ schema.fields) {name : String} (named : IsNamed field name)
    (namedToo : IsNamed other name)
    : field = other := by
  rcases named with rfl | rfl <;> rcases namedToo with same | same
  · exact apart field declared other declaredToo (.inl same.symm)
  · exact apart field declared other declaredToo (.inr same.symm)
  · exact (apart other declaredToo field declared (.inr same)).symm
  · exact List.inj_on_of_nodup_map wellFormed.names declared declaredToo same.symm

/-- A member keeps its name unless it is that of a field. -/
theorem RenamedMember.name_cases (h : RenamedMember schema left right)
    : left.1 = right.1 ∨ ∃ field ∈ schema.fields, IsNamed field right.1 := by
  cases h with
  | same => exact .inl rfl
  | named declared _ after => exact .inr ⟨_, declared, after⟩

/-- A member goes by the names of the same field before and after it is renamed, as no two fields
share a name. -/
theorem RenamedMember.isNamed_iff (wellFormed : schema.WellFormed) (apart : schema.NamesApart)
    (h : RenamedMember schema left right) {field : FieldSchema} (declared : field ∈ schema.fields)
    : IsNamed field left.1 ↔ IsNamed field right.1 := by
  cases h with
  | same => rfl
  | named declaredToo before after =>
      constructor
      · intro named
        rwa [eq_of_isNamed wellFormed apart declared declaredToo named before]
      · intro named
        rwa [eq_of_isNamed wellFormed apart declared declaredToo named after]

section Changes

variable {changes : List ((String × Json) × String × Json)}

/-- Only one member is renamed to a name of a field, as no field was given by both of its names. -/
theorem NamesOnce.change_unique (once : NamesOnce schema (changes.map Prod.fst))
    (wellFormed : schema.WellFormed) (apart : schema.NamesApart)
    (each : ∀ change ∈ changes, RenamedMember schema change.1 change.2) {field : FieldSchema}
    (declared : field ∈ schema.fields) {change other : (String × Json) × String × Json}
    (inside : change ∈ changes) (insideToo : other ∈ changes) (named : IsNamed field change.2.1)
    (namedToo : IsNamed field other.2.1)
    : change = other := by
  have listed {change : (String × Json) × String × Json} (inside : change ∈ changes)
      : change.1.1 ∈ (changes.map Prod.fst).map Prod.fst :=
    List.mem_map_of_mem (List.mem_map_of_mem inside)
  have before := ((each change inside).isNamed_iff wellFormed apart declared).mpr named
  have beforeToo := ((each other insideToo).isNamed_iff wellFormed apart declared).mpr namedToo
  have same := once.name_unique declared (listed inside) (listed insideToo) before beforeToo
  have distinct := once.distinct
  rw [List.map_map] at distinct
  exact List.inj_on_of_nodup_map distinct inside insideToo same

/-- Renamed members still have names of their own, and give no field by both of its names. -/
theorem NamesOnce.renamed (once : NamesOnce schema (changes.map Prod.fst))
    (wellFormed : schema.WellFormed) (apart : schema.NamesApart)
    (each : ∀ change ∈ changes, RenamedMember schema change.1 change.2)
    : NamesOnce schema (changes.map Prod.snd) := by
  have distinct := once.distinct
  rw [List.map_map] at distinct
  have injective
      : ∀ change ∈ changes, ∀ other ∈ changes, change.2.1 = other.2.1 → change = other := by
    intro change inside other insideToo same
    have unique {field : FieldSchema} (declared : field ∈ schema.fields)
        (named : IsNamed field change.2.1)
        : change = other :=
      once.change_unique wellFormed apart each declared inside insideToo named (same ▸ named)
    rcases (each change inside).name_cases with kept | ⟨field, declared, named⟩
    · rcases (each other insideToo).name_cases with keptToo | ⟨field, declared, named⟩
      · exact List.inj_on_of_nodup_map distinct inside insideToo
          (kept.trans (same.trans keptToo.symm))
      · exact unique declared (same ▸ named)
    · exact unique declared named
  refine ⟨?_, fun field declared json own => ?_⟩
  · rw [List.map_map]
    exact distinct.of_map.map_on injective
  · simp only [List.map_map, List.mem_map, Function.comp_apply] at json own
    obtain ⟨change, inside, json⟩ := json
    obtain ⟨other, insideToo, own⟩ := own
    have same := once.change_unique wellFormed apart each declared inside insideToo
      (.inl json.symm) (.inr own.symm)
    rw [← json, ← own, same]

end Changes

end Names

-----------------------------------------------------------------------------------------
-- Reading renamed payloads
-----------------------------------------------------------------------------------------

/-- Two payloads are read as the same messages with a schema, wherever they stand. -/
def SameMessages (schema : MessageSchema) (left right : Json) : Prop :=
  ∀ path message,
    readMessage schema left path = .ok message ↔ readMessage schema right path = .ok message

/-- Single values are then the same as well. -/
theorem SameMessages.readSingle_iff {field : FieldSchema} {schema : MessageSchema}
    {left right : Json} (h : SameMessages schema left right)
    (wellFormed : FieldSchema.WellFormed field) (found : field.message = some schema)
    (path : String) (value : Value)
    : readSingle field.name field.kind field.enumType field.message left path = .ok value
      ↔ readSingle field.name field.kind field.enumType field.message right path = .ok value := by
  have kind : field.kind = .message ∨ field.kind = .group :=
    wellFormed.message.mpr (Option.isSome_of_eq_some found)
  simp only [readSingle_message kind found, map_eq_ok, h path]

/-- A list is read alike if its items are. -/
theorem readField_list_iff {field : FieldSchema} {schema : MessageSchema}
    {changes : List (Json × Json)} (notMap : ¬field.isMap) (isList : field.isList)
    (found : field.message = some schema)
    (wellFormed : FieldSchema.WellFormed field)
    (each : ∀ change ∈ changes, SameMessages schema change.1 change.2) (path : String)
    (value : Value)
    : readField field (.array (changes.map Prod.fst)) path = .ok value
      ↔ readField field (.array (changes.map Prod.snd)) path = .ok value := by
  simp only [readField_array_eq_ok notMap isList, List.zipIdx_map, List.forall₂_map_left_iff]
  refine exists_congr fun values => and_congr_left' (List.Forall₂.iff_of_mem ?_)
  rintro ⟨change, index⟩ inside single
  exact (each change (List.fst_mem_of_mem_zipIdx inside)).readSingle_iff wellFormed found _ _

/-- A map is read alike if the values of its entries are; their keys stay as they are. -/
theorem readField_map_iff {field key value : FieldSchema} {schema : MessageSchema}
    {changes : List (String × Json × Json)} (isMap : field.isMap)
    (entry : field.entryFields? = some (key, value)) (found : value.message = some schema)
    (wellFormed : FieldSchema.WellFormed value)
    (each : ∀ change ∈ changes, SameMessages schema change.2.1 change.2.2) (path : String)
    (result : Value)
    : readField field (.object (changes.map fun change => (change.1, change.2.1))) path
          = .ok result
      ↔ readField field (.object (changes.map fun change => (change.1, change.2.2))) path
          = .ok result := by
  simp only [readField_object_eq_ok isMap, entry, List.forall₂_map_left_iff, Option.some.injEq,
    Prod.mk.injEq]
  refine exists_congr fun _ => exists_congr fun _ => exists_congr fun entries => ?_
  refine and_congr_right fun ⟨_, same⟩ => and_congr_left' (List.Forall₂.iff_of_mem ?_)
  subst same
  intro change inside pair
  simp only [readEntry_eq_ok, readEntryValue_eq_readSingle]
  exact and_congr_right' ((each change inside).readSingle_iff wellFormed found _ _)

-----------------------------------------------------------------------------------------
-- At every depth
-----------------------------------------------------------------------------------------

variable {package : Package}

mutual
/-- By induction on how a payload is renamed. -/
theorem Renamed.sameMessages (wellFormed : package.WellFormed) {schema : MessageSchema}
    {left right : Json}
    : Renamed schema left right
      → schema ∈ package.messages
      → schema.NamesApartWithin
      → NamesOnceWithin schema left
      → SameMessages schema left right
  | .same, _, _, _ => fun _ _ => .rfl
  | @Renamed.object _ right changes each arranged, member, apart, once => by
      have schemaWellFormed := wellFormed.messages schema member
      have leftOnce : NamesOnce schema (changes.map Prod.fst) := once schema _ .self
      have renamed := leftOnce.renamed schemaWellFormed (apart schema .self) each
      have exchanges : ∀ change ∈ changes, Exchanges schema change.1 change.2 :=
        fun change inside =>
          (each change inside).exchanges wellFormed member apart fun field declared named _ _ =>
            once.held (List.mem_map_of_mem inside) declared named
      have interchangeable := Interchangeable.of_changes leftOnce renamed exchanges arranged
      exact fun path message => interchangeable.readMessage_iff schemaWellFormed

/-- A renamed member does for its message what it did before. -/
theorem RenamedMember.exchanges (wellFormed : package.WellFormed) {schema : MessageSchema}
    {left right : String × Json}
    : RenamedMember schema left right
      → schema ∈ package.messages
      → schema.NamesApartWithin
      → (∀ field ∈ schema.fields,
          IsNamed field left.1
          → ∀ inner next, HoldsMessage field left.2 inner next → NamesOnceWithin inner next)
      → Exchanges schema left right
  | .same, _, _, _ => .refl schema left
  | @RenamedMember.named _ _ _ field declared before after within, member, apart, once => by
      have schemaWellFormed := wellFormed.messages schema member
      have reads := within.reads wellFormed ⟨schema, member, declared⟩
        (fun _ found => apart.nested declared found) (once field declared before)
      refine ⟨fun other declaredToo => ?_, within.null_iff, fun other declaredToo named => ?_⟩
      · exact (RenamedMember.named declared before after within).isNamed_iff schemaWellFormed
          (apart schema .self) declaredToo
      · rwa [eq_of_isNamed schemaWellFormed (apart schema .self) declaredToo declared named before]

/-- A field is read alike if members are renamed in the messages that it holds. -/
theorem RenamedField.reads (wellFormed : package.WellFormed) {field : FieldSchema}
    {left right : Json}
    : RenamedField field left right
      → package.HasField field
      → (∀ nested, field.message = some nested → nested.NamesApartWithin)
      → (∀ inner next, HoldsMessage field left inner next → NamesOnceWithin inner next)
      → ∀ path value, readField field left path = .ok value ↔ readField field right path = .ok value
  | .same, _, _, _ => fun _ _ => .rfl
  | @RenamedField.single _ nested _ _ notMap notList found message, inside, apart, once => by
      have same := message.sameMessages wellFormed (inside.message_mem wellFormed found)
        (apart nested found) (once nested left (.single notMap notList found))
      intro path value
      simp only [readField_eq_readSingle notMap notList]
      exact same.readSingle_iff (inside.wellFormed wellFormed) found path value
  | @RenamedField.list _ nested changes notMap isList found each, inside, apart, once =>
      readField_list_iff notMap isList found (inside.wellFormed wellFormed) fun change member =>
        (each change member).sameMessages wellFormed (inside.message_mem wellFormed found)
          (apart nested found)
          (once nested _ (.item notMap isList found (List.mem_map_of_mem member)))
  | @RenamedField.map _ key value nested changes isMap entry found each, inside, apart, once => by
      have valueInside : package.HasField value := (inside.entry wellFormed entry).2
      obtain ⟨entrySchema, entryFound, _, declared⟩ := FieldSchema.entryFields?_mem entry
      refine readField_map_iff isMap entry found (valueInside.wellFormed wellFormed) ?_
      intro change member
      have listed
          : (change.1, change.2.1) ∈ changes.map fun change => (change.1, change.2.1) :=
        List.mem_map_of_mem member
      exact (each change member).sameMessages wellFormed (valueInside.message_mem wellFormed found)
        ((apart entrySchema entryFound).nested declared found)
        (once nested _ (.entry isMap entry found listed))
end

/-- Where fields can be told apart by their names, and no object that is reached as a message gives
a field by both of them, members may be renamed at any set of places, each from one name of its
field to the other. The same message is read, or none as before. -/
theorem readMessage_renamed {text : String} {package : Package} {schema : MessageSchema}
    {left right : Json} (compiled : Proto.compile text = .ok package)
    (member : schema ∈ package.messages) (apart : schema.NamesApartWithin)
    (once : NamesOnceWithin schema left) (renamed : Renamed schema left right) (path : String)
    (message : MessageValue)
    : readMessage schema left path = .ok message ↔ readMessage schema right path = .ok message :=
  renamed.sameMessages (Proto.compile_wellFormed compiled) member apart once path message

/-- The payload of the parcel, with the price of the item under its own name. -/
def parcelPayloadRenamed : Json :=
  .object
    [
      ("items",
        .object [("7", .object [("code", .string "AQI="), ("price_cents", .string "1250")])]),
      ("note", .null),
      ("sizes", .array [.string "LARGE", .number (.integer 0)])
    ]

/-- The parcel has every name once, in itself and in its items. -/
theorem parcel_namesOnce : NamesOnceWithin parcelSchema parcelPayload := by
  have itemPlain : ∀ field ∈ itemSchema.fields, field.message = none := by
    simp [itemSchema, FieldSchema.single]
  have item
      : NamesOnceWithin itemSchema
          (.object [("code", .string "AQI="), ("priceCents", .string "1250")]) :=
    .of_held ⟨by decide, by decide +kernel⟩ fun _ _ field declared _ _ holds =>
      absurd (itemPlain field declared) holds.message_ne_none
  have parcelPlain : ∀ field ∈ parcelSchema.fields, field = parcelItems ∨ field.message = none := by
    simp [parcelSchema, parcelItems, FieldSchema.single]
  refine .of_held ⟨by decide, by decide +kernel⟩ fun member inside field declared _ _ holds => ?_
  rcases parcelPlain field declared with rfl | plain
  · simp only [List.mem_cons, List.not_mem_nil, or_false] at inside
    rcases inside with rfl | rfl | rfl
    · cases holds with
      | single notMap => exact absurd rfl notMap
      | entry _ entry found inside =>
          cases entry
          cases found
          cases List.mem_singleton.mp inside
          exact item
    · cases holds with
      | single notMap => exact absurd rfl notMap
    · cases holds with
      | single notMap => exact absurd rfl notMap
      | item notMap => exact absurd rfl notMap
  · exact absurd plain holds.message_ne_none

/-- The item is renamed within the map of the parcel. -/
theorem parcel_renamed : Renamed parcelSchema parcelPayload parcelPayloadRenamed := by
  let code : String × Json := ("code", .string "AQI=")
  let before : String × Json := ("priceCents", .string "1250")
  let after : String × Json := ("price_cents", .string "1250")
  have price : RenamedMember itemSchema before after :=
    .named (List.mem_cons_self ..) (.inl (by decide +kernel)) (.inr (by decide +kernel)) .same
  have item : Renamed itemSchema (.object [code, before]) (.object [code, after]) := by
    refine .object [(code, code), (before, after)] ?_ (.refl _)
    simp only [List.forall_mem_cons]
    exact ⟨.same, price, nofun⟩
  have entries
      : RenamedField parcelItems (.object [("7", .object [code, before])])
          (.object [("7", .object [code, after])]) := by
    refine .map [("7", .object [code, before], .object [code, after])] rfl rfl rfl ?_
    exact List.forall_mem_singleton.mpr item
  have items
      : RenamedMember parcelSchema ("items", .object [("7", .object [code, before])])
          ("items", .object [("7", .object [code, after])]) :=
    .named (List.mem_cons_self ..) (.inl (by decide +kernel)) (.inl (by decide +kernel)) entries
  let note : String × Json := ("note", .null)
  let sizes : String × Json := ("sizes", .array [.string "LARGE", .number (.integer 0)])
  refine .object [(_, _), (note, note), (sizes, sizes)] ?_ (.refl _)
  simp only [List.forall_mem_cons]
  exact ⟨items, .same, .same, nofun⟩

/-- The parcel is read as before. -/
theorem readMessage_renamed_parcel
    : Proto.compile parcelText = .ok parcelPackage
      ∧ parcelSchema ∈ parcelPackage.messages
      ∧ parcelSchema.NamesApartWithin
      ∧ NamesOnceWithin parcelSchema parcelPayload
      ∧ Renamed parcelSchema parcelPayload parcelPayloadRenamed
      ∧ readMessage parcelSchema parcelPayloadRenamed "request" = .ok parcelMessage := by
  refine
    ⟨compile_parcel, mem_parcelPackage, parcel_namesApart, parcel_namesOnce, parcel_renamed, ?_⟩
  exact (readMessage_renamed compile_parcel mem_parcelPackage parcel_namesApart parcel_namesOnce
    parcel_renamed "request" parcelMessage).mp readMessage_parcel

end GrpcMock.Payload
