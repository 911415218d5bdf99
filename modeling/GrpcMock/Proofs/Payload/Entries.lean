import GrpcMock.Proofs.Payload.Conformance
import GrpcMock.Proofs.Payload.Integers

/-!
Entries of maps that objects give. Every name of a member denotes a key, and a key has the value of
the last member whose name denotes it, so that entries are lost in just the case that two names
denote one key.
-/

namespace GrpcMock.Payload

-----------------------------------------------------------------------------------------
-- Single entries
-----------------------------------------------------------------------------------------

/-- The place of an entry in a payload. -/
def entryPath (path name : String) : String :=
  path ++ "[" ++ name ++ "]"

/-- Reads the entry that a member of an object gives. -/
def readEntry (key value : FieldSchema) (path : String) (member : String × Json)
    : Except Failure (MapKey × Value) := do
  let path := entryPath path member.1
  let held ← atPath path (readKey key.kind member.1)
  let value ← readEntryValue value member.2 path
  pure (held, value)

variable {key value : FieldSchema} {path : String} {members : List (String × Json)}

theorem readKey_eq_ok {kind : FieldKind} {name : String} {held : MapKey}
    : readKey kind name = .ok held ↔ mapKey? kind name = some held := by
  unfold readKey
  split
  · rename_i found
    simp [found]
  · rename_i missing
    simp [missing]

/-- The value of an entry is read like any other single value. -/
theorem readEntryValue_eq_readSingle {field : FieldSchema} {payload : Json} {path : String}
    : readEntryValue field payload path
      = readSingle field.name field.kind field.enumType field.message payload path := by
  obtain ⟨⟩ := field
  rw [readEntryValue]

theorem readEntry_eq_ok {member : String × Json} {pair : MapKey × Value}
    : readEntry key value path member = .ok pair
      ↔ mapKey? key.kind member.1 = some pair.1
        ∧ readEntryValue value member.2 (entryPath path member.1) = .ok pair.2 := by
  obtain ⟨held, single⟩ := pair
  simp only [readEntry, bind_eq_ok, pure_eq_ok, atPath_eq_ok, readKey_eq_ok, Prod.mk.injEq]
  constructor
  · rintro ⟨_, denotes, _, read, rfl, rfl⟩
    exact ⟨denotes, read⟩
  · rintro ⟨denotes, read⟩
    exact ⟨held, denotes, single, read, rfl, rfl⟩

/-- A map is read from an object member by member. -/
theorem readField_object_eq_ok {field : FieldSchema} {result : Value} (isMap : field.isMap)
    : readField field (.object members) path = .ok result
      ↔ ∃ key value entries,
          field.entryFields? = some (key, value)
          ∧ List.Forall₂ (fun member pair => readEntry key value path member = .ok pair)
              members entries
          ∧ result = .map (Sorted.ofList entries) := by
  obtain ⟨name, jsonName, goName, number, kind, isList, marked, hasPresence, message, enumType⟩ :=
    field
  have marked : marked = true := isMap
  rw [readField.eq_def]
  simp only [if_pos marked, FieldSchema.entryFields?]
  match message with
  | none => simp [readMap]
  | some ⟨_, _, [], _⟩ => simp [readMap]
  | some ⟨_, _, [_], _⟩ => simp [readMap]
  | some ⟨_, _, key :: value :: _, _⟩ =>
      simp only [readMap, bind_eq_ok, pure_eq_ok, Option.some.injEq, Prod.mk.injEq]
      constructor
      · rintro ⟨entries, each, rfl⟩
        exact ⟨key, value, entries, ⟨rfl, rfl⟩, mapM_eq_ok.mp each, rfl⟩
      · rintro ⟨_, _, entries, ⟨rfl, rfl⟩, each, rfl⟩
        exact ⟨entries, mapM_eq_ok.mpr each, rfl⟩

-----------------------------------------------------------------------------------------
-- Names and keys
-----------------------------------------------------------------------------------------

/-- The members of an object, each with the key that its name denotes. -/
def keyed (kind : FieldKind) (members : List (String × Json)) : List (MapKey × String × Json) :=
  members.filterMap fun member => (mapKey? kind member.1).map fun held => (held, member)

/-- A name that denotes a key of an integer kind writes the integer that the key is. -/
theorem mapKey?_integral {kind : FieldKind} {name : String} {held : MapKey}
    (integral : kind.isInteger) (h : mapKey? kind name = some held)
    : ∃ n, (rangeOf kind).read? name.toList = some n ∧ held.toValue.integer? = some n := by
  have spelled
      : ∃ n, (rangeOf kind).read? name.toList = some n ∧ held.toValue = integerValue kind n := by
    cases kind
    case bool | float | double | string | bytes | enum | message | group => cases integral
    all_goals
      obtain ⟨n, read, same⟩ := Option.map_eq_some_iff.mp h
      exact ⟨n, read, by rw [← same]; rfl⟩
  obtain ⟨n, read, same⟩ := spelled
  have fits := (holds_rangeOf integral).mp (Decimal.Range.holds_of_read? read)
  exact ⟨n, read, by rw [same, (integerValue_of_holds integral fits).2]⟩

/-- Two names denote one key only if they are the same or write the same integer. -/
theorem eq_or_read?_of_mapKey? {kind : FieldKind} {left right : String} {held : MapKey}
    (hl : mapKey? kind left = some held) (hr : mapKey? kind right = some held)
    : left = right
      ∨ kind.isInteger
        ∧ ∃ n,
            (rangeOf kind).read? left.toList = some n
            ∧ (rangeOf kind).read? right.toList = some n := by
  by_cases integral : kind.isInteger
  · obtain ⟨n, readLeft, sameLeft⟩ := mapKey?_integral integral hl
    obtain ⟨m, readRight, sameRight⟩ := mapKey?_integral integral hr
    rw [sameLeft, Option.some.injEq] at sameRight
    exact .inr ⟨integral, n, readLeft, sameRight ▸ readRight⟩
  · refine .inl ?_
    cases kind
    case string =>
      cases hl
      cases hr
      rfl
    case bool =>
      unfold mapKey? at hl hr
      grind
    all_goals
      first
      | cases hl
      | exact absurd rfl integral

-----------------------------------------------------------------------------------------
-- Entries of a map
-----------------------------------------------------------------------------------------

section Entries

variable {pairs : List (MapKey × Value)}
  (each
    : List.Forall₂ (fun member pair => readEntry key value path member = .ok pair) members pairs)

include each

/-- Every name denotes the key of the entry that its member gives. -/
theorem keyed_of_each
    : (keyed key.kind members).map Prod.snd = members
      ∧ (keyed key.kind members).map Prod.fst = pairs.map Prod.fst := by
  induction each with
  | nil => exact ⟨rfl, rfl⟩
  | cons read _ ih =>
      rw [keyed, List.filterMap_cons, (readEntry_eq_ok.mp read).1]
      exact ⟨congrArg _ ih.1, congrArg _ ih.2⟩

/-- An entry that is the last with its key is given by the last member whose name denotes it. -/
theorem isLast_iff_of_each {held : MapKey} {single : Value}
    : Sorted.IsLast held single pairs
      ↔ ∃ member,
          Sorted.IsLast held member (keyed key.kind members)
          ∧ readEntryValue value member.2 (entryPath path member.1) = .ok single := by
  induction each with
  | nil => simp [Sorted.IsLast, keyed]
  | @cons member pair members pairs read each ih =>
      obtain ⟨denotes, valueRead⟩ := readEntry_eq_ok.mp read
      have front
          : keyed key.kind (member :: members) = (pair.1, member) :: keyed key.kind members := by
        rw [keyed, List.filterMap_cons, denotes]
        rfl
      simp only [front, Sorted.isLast_cons, ih, (keyed_of_each each).2]
      constructor
      · rintro (⟨other, last, otherRead⟩ | ⟨rfl, absent⟩)
        · exact ⟨other, .inl last, otherRead⟩
        · exact ⟨member, .inr ⟨rfl, absent⟩, valueRead⟩
      · rintro ⟨other, last | ⟨same, absent⟩, otherRead⟩
        · exact .inl ⟨other, last, otherRead⟩
        · cases same
          rw [valueRead, Except.ok.injEq] at otherRead
          exact .inr ⟨Prod.ext rfl otherRead, absent⟩

end Entries

/-- Each member of an object has an entry of its own, with its value under the key that its name
denotes. -/
structure Lossless (key value : FieldSchema) (path : String) (members : List (String × Json))
    (entries : MapValue)
    : Prop where
  count : entries.length = members.length
  stored
    : ∀ member ∈ members,
      ∃ held single,
        mapKey? key.kind member.1 = some held
        ∧ readEntryValue value member.2 (entryPath path member.1) = .ok single
        ∧ Sorted.find? held entries = some single
  apart
    : ∀ left ∈ members,
      ∀ right ∈ members,
        mapKey? key.kind left.1 = mapKey? key.kind right.1 → left.1 = right.1

/-- Entries are lost in just the case that two members have names that denote one key. -/
theorem lossless_iff {pairs : List (MapKey × Value)}
    (each
      : List.Forall₂ (fun member pair => readEntry key value path member = .ok pair) members pairs)
    : Lossless key value path members (Sorted.ofList pairs)
      ↔ ((keyed key.kind members).map Prod.fst).Nodup := by
  have keys := (keyed_of_each each).2
  constructor
  · intro lossless
    rw [keys, ← Sorted.length_ofList_eq_iff, lossless.count, each.length_eq]
  · intro nodup
    have distinct : (pairs.map Prod.fst).Nodup := keys ▸ nodup
    have listed {member : String × Json} (inside : member ∈ members)
        : ∃ held, mapKey? key.kind member.1 = some held
          ∧ (held, member) ∈ keyed key.kind members := by
      obtain ⟨pair, _, read⟩ := each.exists_right inside
      have denotes := (readEntry_eq_ok.mp read).1
      exact ⟨pair.1, denotes, List.mem_filterMap.mpr ⟨member, inside, by rw [denotes]; rfl⟩⟩
    refine ⟨?_, ?_, ?_⟩
    · rw [Sorted.length_ofList_eq_iff.mpr distinct, each.length_eq]
    · intro member inside
      obtain ⟨pair, given, read⟩ := each.exists_right inside
      obtain ⟨denotes, valueRead⟩ := readEntry_eq_ok.mp read
      have kept := (Sorted.ofList_perm distinct).mem_iff.mpr given
      exact ⟨pair.1, pair.2, denotes, valueRead,
        Sorted.find?_of_mem (Sorted.ofList_ascending pairs).nodup kept⟩
    · intro left leftInside right rightInside same
      obtain ⟨held, denotes, leftListed⟩ := listed leftInside
      obtain ⟨_, denotesToo, rightListed⟩ := listed rightInside
      rw [← same, denotes, Option.some.injEq] at denotesToo
      subst denotesToo
      have one := List.inj_on_of_nodup_map nodup leftListed rightListed rfl
      exact congrArg (fun pair => pair.2.1) one

/-- A map whose keys are no integers loses no entry of an object with distinct names. -/
theorem lossless_of_not_isInteger {pairs : List (MapKey × Value)}
    (each
      : List.Forall₂ (fun member pair => readEntry key value path member = .ok pair) members pairs)
    (plain : ¬key.kind.isInteger) (distinct : (members.map Prod.fst).Nodup)
    : Lossless key value path members (Sorted.ofList pairs) := by
  rw [lossless_iff each]
  have whole := (keyed_of_each each).1
  have names : ((keyed key.kind members).map fun pair => pair.2.1).Nodup := by
    rw [← whole, List.map_map] at distinct
    exact distinct
  refine (List.Nodup.of_map _ names).map_on fun left hl right hr same => ?_
  obtain ⟨_, _, keyedLeft⟩ := List.mem_filterMap.mp hl
  obtain ⟨_, _, keyedRight⟩ := List.mem_filterMap.mp hr
  obtain ⟨_, denotesLeft, rfl⟩ := Option.map_eq_some_iff.mp keyedLeft
  obtain ⟨_, denotesRight, rfl⟩ := Option.map_eq_some_iff.mp keyedRight
  cases same
  rcases eq_or_read?_of_mapKey? denotesLeft denotesRight with one | ⟨integral, -⟩
  · exact List.inj_on_of_nodup_map names hl hr one
  · exact absurd integral plain

/-- An object that is read as a map gives a key the value of the last member whose name denotes it,
and each of its names denotes a key. No entry is lost in just the case that no two names denote one
key. -/
theorem readField_entries {field : FieldSchema} {result : Value} (isMap : field.isMap)
    (read : readField field (.object members) path = .ok result)
    : ∃ key value entries,
        field.entryFields? = some (key, value)
        ∧ result = .map entries
        ∧ (keyed key.kind members).map Prod.snd = members
        ∧ (∀ held single,
            Sorted.find? held entries = some single
            ↔ ∃ member,
                Sorted.IsLast held member (keyed key.kind members)
                ∧ readEntryValue value member.2 (entryPath path member.1) = .ok single)
        ∧ (Lossless key value path members entries
          ↔ ((keyed key.kind members).map Prod.fst).Nodup) := by
  obtain ⟨key, value, pairs, fields, each, rfl⟩ := (readField_object_eq_ok isMap).mp read
  refine ⟨key, value, _, fields, rfl, (keyed_of_each each).1, ?_, lossless_iff each⟩
  intro held single
  rw [Sorted.find?_ofList, isLast_iff_of_each each]

def parcelItems : FieldSchema :=
  { FieldSchema.single "items" 1 .message with isMap := true, message := some itemsEntrySchema }

/-- Two members whose names write one number. -/
def sevenTwice : List (String × Json) :=
  [("07", .object [("code", .string "AQI=")]), ("7", .object [("priceCents", .string "1250")])]

/-- The first of the two members is lost. -/
theorem readField_sevenTwice
    : Proto.compile parcelText = .ok parcelPackage
      ∧ parcelSchema ∈ parcelPackage.messages
      ∧ parcelItems ∈ parcelSchema.fields
      ∧ ∃ key value entries,
          parcelItems.entryFields? = some (key, value)
          ∧ readField parcelItems (.object sevenTwice) "request.items" = .ok (.map entries)
          ∧ ¬Lossless key value "request.items" sevenTwice entries := by
  let entries : MapValue := [(.int32 7, .message [(1, .int64 1250)])]
  have read : readField parcelItems (.object sevenTwice) "request.items" = .ok (.map entries) := by
    rfl
  have declared : parcelItems ∈ parcelSchema.fields := List.mem_cons_self
  refine ⟨compile_parcel, mem_parcelPackage, declared, ?_⟩
  obtain ⟨key, value, _, fields, same, -, -, lossless⟩ := readField_entries rfl read
  cases fields
  cases same
  have twice : ¬((keyed .int32 sevenTwice).map Prod.fst).Nodup := by decide
  exact ⟨_, _, entries, rfl, read, fun kept => twice (lossless.mp kept)⟩

end GrpcMock.Payload
