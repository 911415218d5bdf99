import GrpcMock.Proofs.Mock.Verdicts
import GrpcMock.Proofs.Schema.Conforms

/-!
Which values have literals. A literal is written part by part, and each part asks something of the
schema under which it is read; the first part in this order that does not get it decides how it
fails.
-/

namespace GrpcMock

/-- The schema that the kind of a field asks for is there. -/
structure FieldSchema.Typed (field : FieldSchema) : Prop where
  enum : field.kind = .enum → field.enumType.isSome
  message : field.kind = .message ∨ field.kind = .group → field.message.isSome

namespace Go

open GrpcMock.Mock (Settled verdict verdict_eq_error verdict_eq_ok)

-----------------------------------------------------------------------------------------
-- Parts
-----------------------------------------------------------------------------------------

/-- A part of a value with the schema under which it is read. -/
inductive Part
  /-- A value of a field. -/
  | read (field : FieldSchema) (value : Value)
  /-- The number of a field that is set in a message. -/
  | set (schema : MessageSchema) (number : UInt32)

mutual
/-- The parts of a value in the order in which they are written. What contains others comes first,
and entries of a map come in the order of their keys. -/
def parts (field : FieldSchema) : Value → List Part
  | .message fields =>
      .read field (.message fields)
        :: match field.message with
          | none => []
          | some schema => argumentParts schema fields
  | .list items => .read field (.list items) :: itemParts field items
  | .map entries =>
      .read field (.map entries)
        :: match field.entryFields? with
          | none => []
          | some (key, value) =>
              ((Sorted.ofList (entryParts key value entries)).map Prod.snd).flatten
  | value => [.read field value]

/-- The fields of a message, each with its number before its value. -/
def argumentParts (schema : MessageSchema) : List (UInt32 × Value) → List Part
  | [] => []
  | (number, value) :: rest =>
      .set schema number
        :: (match schema.fieldNumbered? number with
          | none => []
          | some field => parts field value)
        ++ argumentParts schema rest

/-- The items of a list are read under the field of the list. -/
def itemParts (field : FieldSchema) : List Value → List Part
  | [] => []
  | value :: rest => parts field value ++ itemParts field rest

/-- The parts of the entries of a map, each with its key before its value. -/
def entryParts (keyField valueField : FieldSchema)
    : List (MapKey × Value) → List (MapKey × List Part)
  | [] => []
  | (key, value) :: rest =>
      (key, .read keyField key.toValue :: parts valueField value)
        :: entryParts keyField valueField rest
end

namespace Part

/-- What a part asks of the schema under which it is read. -/
def Sound : Part → Prop
  | .read field (.enum ordinal) =>
      ∃ enum,
        field.enumType = some enum ∧ 0 ≤ ordinal.toInt ∧ ordinal.toInt < enum.members.length
  | .read field (.message _) => ∃ schema, field.message = some schema
  | .read field (.list _) => field.kind ≠ .group ∧ FieldSchema.Typed field
  | .read field (.map _) =>
      ∃ schema key value others,
        field.message = some schema
        ∧ schema.fields = key :: value :: others
        ∧ value.kind ≠ .group
        ∧ FieldSchema.Typed key
        ∧ FieldSchema.Typed value
  | .read _ _ => True
  | .set schema number => number ∈ schema.fields.map (·.number)

end Part

/-- A part of a schema, or the failure that a field has none. -/
def present {α : Type} (field : FieldSchema) (expected : String) : Option α → Except Failure α
  | some part => pure part
  | none => throw (.missingSchema field.name expected)

/-- The schema that the kind of a field asks for has to be there. -/
def checkType (field : FieldSchema) : Except Failure Unit :=
  match field.kind with
  | .enum => verdict (present field "enum" field.enumType)
  | .message | .group => verdict (present field "message" field.message)
  | _ => pure ()

/-- A list cannot be one of groups, and its type has to be known. -/
def checkList (field : FieldSchema) : Except Failure Unit :=
  if field.kind = .group then throw (.unsupportedGroup field.name) else checkType field

/-- The values of a map cannot be groups, and the types of its keys and values have to be known. -/
def checkMap (field : FieldSchema) : Except Failure Unit := do
  let (key, value) ← present field "map entry" field.entryFields?
  if value.kind = .group then throw (.unsupportedGroup field.name)
  else
    checkType key
    checkType value

/-- How a part fails if it does not get what it asks for. -/
def Part.check : Part → Except Failure Unit
  | .read field (.enum ordinal) => do
      let enum ← present field "enum" field.enumType
      if (enum.member? ordinal).isSome then pure ()
      else throw (.enumOutOfRange enum.fullName ordinal enum.members.length)
  | .read field (.message _) => verdict (present field "message" field.message)
  | .read field (.list _) => checkList field
  | .read field (.map _) => checkMap field
  | .read _ _ => pure ()
  | .set schema number =>
      if number ∈ schema.fields.map (·.number) then pure ()
      else throw (.fieldNotFound number schema.fullName)

-----------------------------------------------------------------------------------------
-- Sound parts
-----------------------------------------------------------------------------------------

/-- A part of a schema is present exactly if there is one. -/
theorem present_eq_ok {α : Type} {field : FieldSchema} {expected : String} {part : Option α}
    {value : α}
    : present field expected part = .ok value ↔ part = some value := by
  cases part <;> simp [present, pure, Except.pure, throw, throwThe, MonadExceptOf.throw]

/-- The same goes for the mere question whether it is. -/
theorem verdict_present {α : Type} {field : FieldSchema} {expected : String} {part : Option α}
    : verdict (present field expected part) = .ok () ↔ part.isSome := by
  simp only [verdict_eq_ok, present_eq_ok, Option.isSome_iff_exists]

/-- A check passes if its condition is met. -/
theorem ite_throw_eq_ok {condition : Prop} [Decidable condition] {failure : Failure}
    {next : Except Failure Unit}
    : (if condition then throw failure else next) = .ok () ↔ ¬condition ∧ next = .ok () := by
  split
  · rename_i holds
    exact iff_of_false nofun fun both => both.1 holds
  · rename_i fails
    exact (and_iff_right fails).symm

/-- A check passes exactly if its condition holds. -/
theorem ite_pure_eq_ok {condition : Prop} [Decidable condition] {failure : Failure}
    : (if condition then pure () else throw failure) = (.ok () : Except Failure Unit)
      ↔ condition := by
  split
  · rename_i holds
    exact iff_of_true rfl holds
  · rename_i fails
    exact iff_of_false nofun fails

/-- The check of a type passes exactly if the schema is there that its kind asks for. -/
theorem checkType_eq_ok {field : FieldSchema} : checkType field = .ok () ↔ field.Typed := by
  unfold checkType
  split
  · rename_i kind
    rw [verdict_present]
    refine ⟨fun found => ⟨fun _ => found, ?_⟩, fun typed => typed.enum kind⟩
    simp [kind]
  · rename_i kind
    rw [verdict_present]
    exact ⟨fun found => ⟨by simp [kind], fun _ => found⟩, fun typed => typed.message (.inl kind)⟩
  · rename_i kind
    rw [verdict_present]
    exact ⟨fun found => ⟨by simp [kind], fun _ => found⟩, fun typed => typed.message (.inr kind)⟩
  · rename_i notEnum notMessage notGroup
    exact iff_of_true rfl
      ⟨fun kind => absurd kind notEnum, fun kind => (kind.elim notMessage notGroup).elim⟩

/-- The entries of a map have the first two fields of its message. -/
theorem entryFields?_eq_some {field key value : FieldSchema}
    : field.entryFields? = some (key, value)
      ↔ ∃ schema others, field.message = some schema ∧ schema.fields = key :: value :: others := by
  unfold FieldSchema.entryFields?
  split
  · rename_i found
    simp [found]
  · rename_i none
    refine iff_of_false nofun ?_
    rintro ⟨⟨_, _, _, _⟩, others, found, rfl⟩
    exact none _ _ _ _ _ _ found

/-- The check of a list passes exactly if it is none of groups and its type is known. -/
theorem checkList_eq_ok {field : FieldSchema}
    : checkList field = .ok () ↔ field.kind ≠ .group ∧ field.Typed := by
  rw [checkList, ite_throw_eq_ok, checkType_eq_ok]

/-- The check of a map passes exactly if its entries have a key and a value with known types, and
the values are no groups. -/
theorem checkMap_eq_ok {field : FieldSchema}
    : checkMap field = .ok ()
      ↔ ∃ schema key value others,
          field.message = some schema
          ∧ schema.fields = key :: value :: others
          ∧ value.kind ≠ .group
          ∧ FieldSchema.Typed key
          ∧ FieldSchema.Typed value := by
  simp only [checkMap, ↓check_bind_eq_ok, bind_eq_ok, present_eq_ok, ite_throw_eq_ok, Prod.exists,
    entryFields?_eq_some, checkType_eq_ok]
  constructor
  · rintro ⟨key, value, ⟨schema, others, found, listed⟩, other, typed⟩
    exact ⟨schema, key, value, others, found, listed, other, typed⟩
  · rintro ⟨schema, key, value, others, found, listed, other, typed⟩
    exact ⟨key, value, ⟨schema, others, found, listed⟩, other, typed⟩

/-- Keys of maps need no schema. -/
theorem check_key {field : FieldSchema} {key : MapKey}
    : Part.check (.read field key.toValue) = .ok () := by
  cases key <;> rfl

/-- A part passes its check if it gets what it asks for. -/
theorem Part.check_eq_ok (part : Part) : part.check = .ok () ↔ part.Sound := by
  cases part with
  | set schema number => exact ite_pure_eq_ok
  | read field value =>
      cases value with
      | enum ordinal =>
          simp only [Part.check, Part.Sound, bind_eq_ok, present_eq_ok, ite_pure_eq_ok,
            EnumSchema.member?_isSome]
      | message fields => exact verdict_present.trans Option.isSome_iff_exists
      | list items => exact checkList_eq_ok
      | map entries => exact checkMap_eq_ok
      | _ => exact iff_of_true rfl trivial

/-- The numbers that are found are those that are declared. -/
theorem fieldNumbered?_eq_none {schema : MessageSchema} {number : UInt32}
    : schema.fieldNumbered? number = none ↔ number ∉ schema.fields.map (·.number) := by
  unfold MessageSchema.fieldNumbered?
  simp

-----------------------------------------------------------------------------------------
-- Rendering parts
-----------------------------------------------------------------------------------------

variable {σ α β : Type} {speller : Speller σ}

section Required

variable {next : α → Rendering σ β} {settled : Except Failure Unit} {field : FieldSchema}
  {expected : String}

/-- What is there can be used. -/
theorem required_some_settled {name : String} {part : α} (h : Settled (next part) settled)
    : Settled (required name expected (some part) >>= next) settled :=
  h

/-- Writing what needs a part of a schema fails for want of it before anything else. -/
theorem required_settled {part : Option α} {later : α → Except Failure Unit}
    (hn : ∀ value, Settled (next value) (later value))
    : Settled (required field.name expected part >>= next)
        (present field expected part >>= later) := by
  cases part with
  | none => exact .throw_bind
  | some value => exact hn value

/-- Only whether something is there counts. -/
theorem required_settled_verdict {part : Option α} (hn : ∀ value, Settled (next value) (.ok ()))
    : Settled (required field.name expected part >>= next)
        (verdict (present field expected part)) := by
  cases part with
  | none => exact .throw_bind
  | some value => exact hn value

end Required

/-- Writing a float or double never fails. -/
theorem floatLiteral_settled {format : Binary.Format} {bits : Nat}
    : Settled (floatLiteral speller format bits) (.ok ()) := by
  unfold floatLiteral
  split
  · exact .pure
  · exact .after .write fun _ => .pure
  · exact .after .write fun _ => .pure

/-- Neither does making a pointer of a value. -/
theorem pointed_settled {value : Value} {text : String}
    : Settled (pointed speller value text) (.ok ()) := by
  unfold pointed
  split
  · exact .pure
  · split
    · exact .pure
    · exact .after .write fun _ => .pure

/-- Neither does setting a field to a value that is written. -/
theorem assigned_settled {field : FieldSchema} {value : Value} {text : String}
    : Settled (assigned speller field value text) (.ok ()) := by
  unfold assigned
  dsimp only
  split
  · exact .after pointed_settled fun _ => .pure
  · exact .pure

/-- Writing the type of a field fails exactly as its check does. -/
theorem typeName_settled {field : FieldSchema}
    : Settled (typeName speller field) (checkType field) := by
  unfold typeName checkType
  cases field.kind with
  | enum => exact required_settled_verdict fun _ => .write
  | message | group => exact required_settled_verdict fun _ => .after .write fun _ => .pure
  | _ => exact .pure

/-- Writing a value of an enum fails exactly as the check of that part does. -/
theorem enumLiteral_settled {field : FieldSchema} {ordinal : Int32}
    : Settled (enumLiteral speller field ordinal) (Part.check (.read field (.enum ordinal))) := by
  refine required_settled fun enum => ?_
  cases enum.member? ordinal with
  | none => exact .throw
  | some member => exact .write

/-- Writing the type of a list fails exactly as the check of the list does. -/
theorem listType_settled {field : FieldSchema} {items : List Value}
    : Settled (listType speller field) (Part.check (.read field (.list items))) := by
  rw [listType, Part.check, checkList]
  split
  · exact .throw_bind
  · exact .andThen typeName_settled fun _ => .pure

/-- Writing the type of a map fails exactly as the checks of its keys and values do, in this
order. -/
theorem mapType_settled {key value : FieldSchema}
    : Settled (mapType speller key value) (checkType key >>= fun _ => checkType value) :=
  .bind typeName_settled fun _ => .andThen typeName_settled fun _ => .pure

/-- After a map is found to have fields for its entries comes the check of their types. -/
theorem mapFields_settled {field : FieldSchema} {later : Except Failure Unit}
    {next : FieldSchema × FieldSchema → Rendering σ α}
    (hn : ∀ fields,
      field.entryFields? = some fields
      → Settled (next fields)
          ((do
              checkType fields.1
              checkType fields.2)
            >>= fun _ => later))
    : Settled (mapFields field >>= next) (checkMap field >>= fun _ => later) := by
  simp only [mapFields, checkMap, bind_assoc]
  cases found : field.entryFields? with
  | none => exact .throw_bind
  | some fields =>
      refine required_some_settled ?_
      change Settled _ (_ >>= fun _ => later)
      split
      · exact .throw_bind
      · exact hn fields found

/-- What is written in order fails at the first offence in that order. -/
theorem inOrder_settled {renderings : List (Rendering σ String)} {partLists : List (List Part)}
    (each : List.Forall₂
      (fun rendering parts => Settled rendering (forM parts Part.check)) renderings partLists)
    : Settled (inOrder renderings) (forM partLists.flatten Part.check) := by
  induction each with
  | nil => exact .pure
  | cons first _ ih =>
      rw [List.flatten_cons, List.forM_append]
      exact .bind first fun _ => .andThen ih fun _ => .pure

mutual
/-- What a literal comes to is settled by checking its parts in their order. By induction on the
value. -/
theorem literal_settled (field : FieldSchema)
    : ∀ value : Value,
        Settled (literal speller (some field) value) (forM (parts field value) Part.check)
  | .bool _ => .pure
  | .int32 _ => .pure
  | .int64 _ => .pure
  | .uint32 _ => .pure
  | .uint64 _ => .pure
  | .float32 _ => floatLiteral_settled
  | .float64 _ => floatLiteral_settled
  | .string _ => .pure
  | .bytes _ => .pure
  | .enum ordinal => by
      rw [literal, parts, List.forM_cons, List.forM_nil, bind_pure_unit]
      · exact required_some_settled enumLiteral_settled
      all_goals nofun
  | .message fields => by
      rw [literal, parts, List.forM_cons, Part.check]
      refine required_some_settled ?_
      cases field.message with
      | none => exact .throw_bind
      | some schema =>
          refine required_some_settled ?_
          exact .andThen (arguments_settled schema fields) fun _ => .after .write fun _ => .pure
  | .list items => by
      rw [literal, parts, List.forM_cons]
      refine required_some_settled (.bind listType_settled fun _ => ?_)
      exact .andThen (elements_settled field items) fun _ => .pure
  | .map entries => by
      rw [literal, parts, List.forM_cons, Part.check]
      refine required_some_settled (mapFields_settled fun fields found => ?_)
      rw [found]
      refine .bind mapType_settled fun _ => .andThen (inOrder_settled ?_) fun _ => .pure
      have sorted := Sorted.ofList_matches (entryLiterals_settled fields.1 fields.2 entries)
      rw [List.forall₂_map_left_iff, List.forall₂_map_right_iff]
      exact sorted.imp fun _ _ both => both.2

/-- Writing the fields of a message fails exactly as the checks of their parts do. -/
theorem arguments_settled (schema : MessageSchema)
    : ∀ fields : List (UInt32 × Value),
        Settled (arguments speller schema fields) (forM (argumentParts schema fields) Part.check)
  | [] => .pure
  | (number, value) :: rest => by
      rw [arguments, argumentParts, List.cons_append, List.forM_cons, List.forM_append, Part.check]
      cases found : schema.fieldNumbered? number with
      | none =>
          rw [if_neg (fieldNumbered?_eq_none.mp found)]
          exact .throw
      | some field =>
          have declared : number ∈ schema.fields.map (·.number) := by
            by_contra missing
            cases found.symm.trans (fieldNumbered?_eq_none.mpr missing)
          rw [if_pos declared, pure_bind]
          refine .bind (literal_settled field value) fun _ => .after assigned_settled fun _ => ?_
          exact .andThen (arguments_settled schema rest) fun _ => .pure

/-- So does writing the elements of a list. -/
theorem elements_settled (field : FieldSchema)
    : ∀ items : List Value,
        Settled (elements speller field items) (forM (itemParts field items) Part.check)
  | [] => .pure
  | value :: rest => by
      rw [elements, itemParts, List.forM_append]
      refine .bind (literal_settled field value) fun _ => ?_
      exact .andThen (elements_settled field rest) fun _ => .pure

/-- So does writing each entry of a map, whatever the order of the keys. -/
theorem entryLiterals_settled (key field : FieldSchema)
    : ∀ entries : List (MapKey × Value),
        List.Forall₂
          (Sorted.Matches fun rendering parts => Settled rendering (forM parts Part.check))
          (entryLiterals speller field entries)
          (entryParts key field entries)
  | [] => .nil
  | (_, value) :: rest => by
      rw [entryLiterals, entryParts]
      refine .cons ⟨rfl, ?_⟩ (entryLiterals_settled key field rest)
      change Settled _ (forM (_ :: parts field value) Part.check)
      rw [List.forM_cons, check_key]
      exact .andThen (literal_settled field value) fun _ => .pure
end

/-- A value has a literal if all its parts get what they ask for, and else the first part that does
not decides the failure. Neither depends on how identifiers are written. -/
theorem literal_decided_by_parts (speller : Speller σ) (field : FieldSchema) (value : Value)
    (before : σ)
    : ((∃ text, ((literal speller (some field) value).run.run before).1 = .ok text)
        ↔ ∀ part ∈ parts field value, part.Sound)
      ∧ ∀ failure,
          ((literal speller (some field) value).run.run before).1 = .error failure
          ↔ ∃ earlier part later,
              parts field value = earlier ++ part :: later
              ∧ (∀ other ∈ earlier, other.Sound)
              ∧ part.check = .error failure := by
  have settled
      : verdict ((literal speller (some field) value).run.run before).1
        = forM (parts field value) Part.check :=
    literal_settled field value before
  refine ⟨?_, fun failure => ?_⟩
  · rw [← verdict_eq_ok, settled, forM_eq_ok]
    simp only [Part.check_eq_ok]
  · rw [← verdict_eq_error, settled, forM_eq_error]
    simp only [Part.check_eq_ok]

end Go

end GrpcMock
