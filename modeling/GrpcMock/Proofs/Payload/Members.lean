import GrpcMock.Proofs.Payload.Fields
import GrpcMock.Proofs.Proto.Identifiers

/-!
The members of an object and the fields that they set. A field is looked up by its JSON name before
its own, and two fields of a message may share a JSON name; these are the only two ways in which
members and fields can fail to be in one-to-one correspondence.
-/

namespace GrpcMock.Payload

/-- A member of an object sets a field of a message: it goes by a name of the field, and what is
read from it is what the field holds. -/
structure Sets (path : String) (member : String × Json) (field : FieldSchema)
    (message : MessageValue) : Prop where
  present : member.2 ≠ .null
  named : IsNamed field member.1
  held
    : ∃ value,
        readField field member.2 (path ++ "." ++ field.jsonName) = .ok value
        ∧ (field.number, value) ∈ message

/-- The members of an object that are not null and the fields that are set in a message correspond
one to one. -/
structure Matched (path : String) (schema : MessageSchema) (members : List (String × Json))
    (message : MessageValue) : Prop where
  used
    : ∀ member ∈ members,
        member.2 ≠ .null → ∃! field, field ∈ schema.fields ∧ Sets path member field message
  sourced
    : ∀ pair ∈ message,
      ∃! member,
        member ∈ members
        ∧ ∃ field ∈ schema.fields, field.number = pair.1 ∧ Sets path member field message

/-- No member that is not null has the JSON name of two fields, and none has the own name of a field
for which the object has the JSON name as well, be it with null. -/
structure Unambiguous (schema : MessageSchema) (members : List (String × Json)) : Prop where
  shared
    : ∀ member ∈ members,
        member.2 ≠ .null
        → ∀ field ∈ schema.fields,
          ∀ other ∈ schema.fields,
            field.jsonName = member.1 → other.jsonName = member.1 → field = other
  spelled
    : ∀ field ∈ schema.fields,
        field.name ≠ field.jsonName
        → field.jsonName ∈ members.map Prod.fst
        → ∀ payload, (field.name, payload) ∈ members → payload = .null

-----------------------------------------------------------------------------------------
-- Names of fields
-----------------------------------------------------------------------------------------

/-- A name that is the JSON name of some field has no underscore, so it is its own JSON name. -/
theorem jsonName_eq_of_name {field other : FieldSchema} (hf : FieldSchema.Named field)
    (ho : FieldSchema.Named other) (same : field.jsonName = other.name)
    : other.jsonName = other.name := by
  have plain : '_' ∉ other.name.toList := by
    rw [← same, hf.jsonName]
    exact Naming.underscore_not_mem_jsonName (Proto.isIdentifier_isNameChar hf.name)
  rw [ho.jsonName, Naming.jsonName_eq_self plain]

-----------------------------------------------------------------------------------------
-- The correspondence
-----------------------------------------------------------------------------------------

section Correspondence

variable {path : String} {schema : MessageSchema} {members : List (String × Json)}
  {message : MessageValue}

/-- A member sets the field that looks it up. -/
theorem sets_of_memberFor? (read : FieldsRead members path schema.fields message)
    {member : String × Json} {field : FieldSchema} (declared : field ∈ schema.fields)
    (named : IsNamed field member.1) (given : memberFor? field members = some member.2)
    (present : member.2 ≠ .null)
    : Sets path member field message :=
  ⟨present, named, read.held declared given present⟩

/-- Where members and fields correspond, a member that would set two fields, or none, would break
the correspondence. -/
theorem Unambiguous.of_matched (wellFormed : schema.WellFormed)
    (named : ∀ field ∈ schema.fields, FieldSchema.Named field)
    (distinct : (members.map Prod.fst).Nodup)
    (read : FieldsRead members path schema.fields message)
    (h : Matched path schema members message)
    : Unambiguous schema members := by
  have json {field : FieldSchema} {payload : Json} (declared : field ∈ schema.fields)
      (inside : (field.jsonName, payload) ∈ members) (present : payload ≠ .null)
      : Sets path (field.jsonName, payload) field message :=
    sets_of_memberFor? read declared (.inl rfl) (memberFor?_of_jsonName distinct inside) present
  refine ⟨?_, ?_⟩
  · rintro ⟨name, payload⟩ inside present field declared other declaredToo rfl same
    have second := json declaredToo (same ▸ inside) present
    rw [same] at second
    exact (h.used _ inside present).unique ⟨declared, json declared inside present⟩
      ⟨declaredToo, second⟩
  · intro field declared differs listed payload inside
    by_contra present
    obtain ⟨setter, ⟨declaredToo, own⟩, -⟩ := h.used _ inside present
    have same : setter = field := by
      rcases own.named with shared | shared
      · have plain := jsonName_eq_of_name (named setter declaredToo) (named field declared) shared
        exact absurd plain.symm differs
      · exact List.inj_on_of_nodup_map wellFormed.names declaredToo declared shared
    subst same
    -- the field holds something, so what stands under its JSON name is not null
    obtain ⟨value, -, held⟩ := own.held
    obtain ⟨other, declaredOther, found, number, given, foundPresent⟩ := read.given held
    cases List.inj_on_of_nodup_map wellFormed.numbers declaredOther declared number
    obtain ⟨⟨_, first⟩, listed, rfl⟩ := List.mem_map.mp listed
    cases given.symm.trans (memberFor?_of_jsonName distinct listed)
    have both := (h.sourced _ held).unique
      ⟨listed, setter, declared, rfl, json declared listed foundPresent⟩
      ⟨inside, setter, declared, rfl, own⟩
    exact differs (congrArg Prod.fst both).symm

/-- A field goes by the name of at most one member that is not null. -/
theorem Unambiguous.member_unique (h : Unambiguous schema members)
    (distinct : (members.map Prod.fst).Nodup) {field : FieldSchema}
    (declared : field ∈ schema.fields) {left right : String × Json} (hl : left ∈ members)
    (hr : right ∈ members) (leftPresent : left.2 ≠ .null) (rightPresent : right.2 ≠ .null)
    (leftNamed : IsNamed field left.1) (rightNamed : IsNamed field right.1)
    : left = right := by
  have apart {json own : String × Json} (hj : json ∈ members) (ho : own ∈ members)
      (present : own.2 ≠ .null) (jsonNamed : field.jsonName = json.1)
      (ownNamed : field.name = own.1)
      : json.1 = own.1 := by
    rw [← jsonNamed, ← ownNamed]
    by_contra differs
    have listed : field.jsonName ∈ members.map Prod.fst := jsonNamed ▸ List.mem_map_of_mem hj
    exact present (h.spelled field declared (Ne.symm differs) listed own.2 (ownNamed ▸ ho))
  refine List.inj_on_of_nodup_map distinct hl hr ?_
  rcases leftNamed with first | first <;> rcases rightNamed with second | second
  · exact first.symm.trans second
  · exact apart hl hr rightPresent first second
  · exact (apart hr hl leftPresent second first).symm
  · exact first.symm.trans second

/-- In an unambiguous object, each member that is not null sets the field that it names, and each
field is set by one member. -/
theorem Matched.of_unambiguous (wellFormed : schema.WellFormed)
    (named : ∀ field ∈ schema.fields, FieldSchema.Named field)
    (distinct : (members.map Prod.fst).Nodup)
    (known : unknownName? schema.fields members = none)
    (read : FieldsRead members path schema.fields message) (h : Unambiguous schema members)
    : Matched path schema members message := by
  refine ⟨?_, fun pair held => ?_⟩
  · rintro ⟨name, payload⟩ inside present
    by_cases json : ∃ field ∈ schema.fields, field.jsonName = name
    · obtain ⟨field, declared, rfl⟩ := json
      have given := memberFor?_of_jsonName distinct inside
      refine ⟨field, ⟨declared, sets_of_memberFor? read declared (.inl rfl) given present⟩, ?_⟩
      rintro other ⟨declaredToo, sets⟩
      have shared : other.jsonName = field.jsonName := by
        rcases sets.named with same | same
        · exact same
        · exact (jsonName_eq_of_name (named field declared) (named other declaredToo)
            same.symm).trans same
      exact h.shared _ inside present other declaredToo field declared shared rfl
    · obtain ⟨field, declared, same | rfl⟩ := unknownName?_eq_none.mp known _ inside
      · exact absurd ⟨field, declared, same⟩ json
      have differs : field.name ≠ field.jsonName := fun same =>
        json ⟨field, declared, same.symm⟩
      have absent : field.jsonName ∉ members.map Prod.fst := fun listed =>
        present (h.spelled field declared differs listed payload inside)
      have given := memberFor?_of_name distinct absent inside
      refine ⟨field, ⟨declared, sets_of_memberFor? read declared (.inr rfl) given present⟩, ?_⟩
      rintro other ⟨declaredToo, sets⟩
      rcases sets.named with same | same
      · exact absurd ⟨other, declaredToo, same⟩ json
      · exact List.inj_on_of_nodup_map wellFormed.names declaredToo declared same
  · obtain ⟨field, declared, payload, number, given, present⟩ := read.given held
    obtain ⟨name, inside, goesBy⟩ := exists_member_of_memberFor? given
    refine ⟨(name, payload), ⟨inside, field, declared, number,
      sets_of_memberFor? read declared goesBy given present⟩, ?_⟩
    rintro member ⟨insideToo, other, declaredToo, numberToo, sets⟩
    have same : other = field :=
      List.inj_on_of_nodup_map wellFormed.numbers declaredToo declared
        (numberToo.trans number.symm)
    exact h.member_unique distinct declared insideToo inside sets.present present
      (same ▸ sets.named) goesBy

end Correspondence

/-- The members of an object that are not null and the fields that they set correspond one to one
exactly if the object is unambiguous. Otherwise some member is passed over or sets two fields. -/
theorem matched_iff_unambiguous {text path : String} {package : Package} {schema : MessageSchema}
    {members : List (String × Json)} {message : MessageValue}
    (compiled : Proto.compile text = .ok package) (member : schema ∈ package.messages)
    (distinct : (members.map Prod.fst).Nodup)
    (read : readMessage schema (.object members) path = .ok message)
    : Matched path schema members message ↔ Unambiguous schema members := by
  have wellFormed := (Proto.compile_wellFormed compiled).messages schema member
  have named := (Proto.compile_named compiled).within member
  obtain ⟨known, fieldsRead⟩ := (readMessage_object_eq_ok wellFormed.numbers).mp read
  exact ⟨.of_matched wellFormed named distinct fieldsRead,
    .of_unambiguous wellFormed named distinct known fieldsRead⟩

def accountText : String :=
  "message Account \x7b optional int64 user_id = 1; \x7d"

def accountSchema : MessageSchema :=
  {
    fullName := "Account",
    ident := ⟨"Account", ""⟩,
    fields := [{ FieldSchema.single "user_id" 1 .int64 with hasPresence := true }],
    isMapEntry := false
  }

def accountPackage : Package :=
  {
    name := none,
    goPackage := ⟨"", "main"⟩,
    messages := [accountSchema],
    enums := [],
    services := []
  }

/-- An object with null under the JSON name of a field, and a number under its own name. -/
def accountMembers : List (String × Json) :=
  [("userId", .null), ("user_id", .number (.integer 5))]

/-- The number is passed over, so it sets no field. -/
theorem account_unmatched
    : Proto.compile accountText = .ok accountPackage
      ∧ accountSchema ∈ accountPackage.messages
      ∧ (accountMembers.map Prod.fst).Nodup
      ∧ readMessage accountSchema (.object accountMembers) "request" = .ok []
      ∧ ¬Matched "request" accountSchema accountMembers [] := by
  have compiled : Proto.compile accountText = .ok accountPackage :=
    toOption_eq_some.mp (by decide +kernel)
  have member : accountSchema ∈ accountPackage.messages := List.mem_singleton_self _
  have distinct : (accountMembers.map Prod.fst).Nodup := by decide
  have read : readMessage accountSchema (.object accountMembers) "request" = .ok [] := by rfl
  refine ⟨compiled, member, distinct, read, fun matched => ?_⟩
  have unambiguous := (matched_iff_unambiguous compiled member distinct read).mp matched
  have null := unambiguous.spelled _ (List.mem_singleton_self _) (by decide +kernel)
    (by decide +kernel) (.number (.integer 5)) (by simp [accountMembers, FieldSchema.single])
  cases null

end GrpcMock.Payload
