import GrpcMock.Proofs.Proto.Companions
import GrpcMock.Proofs.Proto.Nesting
import GrpcMock.Proofs.Proto.Rules

/-!
The rules of a schema file as its author knows them. A file in which no message contains itself is
accepted exactly if it keeps them all.
-/

namespace GrpcMock.Proto

-----------------------------------------------------------------------------------------
-- The rules
-----------------------------------------------------------------------------------------

/-- A field of a message. Its number can be used, its type is known where the message stands, and
neither groups nor maps are used where they may not be. -/
structure LawfulField (file : File) (message : Definition) (field : Field) : Prop where
  number : 1 ≤ field.number.toInt ∧ field.number.toInt ≤ 536870911
  unreserved : ¬(19000 ≤ field.number.toInt ∧ field.number.toInt ≤ 19999)
  group : file.dialect = .proto3 → field.label ≠ .group ∧ field.label ≠ .repeatedGroup
  typed
    : ∃ type target,
        field.type = some type
        ∧ file.resolve message.name type = some target
        ∧ (message.isMapEntry
          → field.number = 1
          → ∃ kind, target = .scalar kind ∧ kind ∉ [.float, .double, .bytes])
        ∧ ∀ entry, target = .definition entry → entry.isMapEntry → field.label = .map

structure LawfulMessage (file : File) (message : Definition) : Prop where
  names : (message.fields.map (·.name)).Nodup
  numbers : (message.fields.map (·.number)).Nodup
  fields : ∀ field ∈ message.fields, LawfulField file message field

structure LawfulEnum (file : File) (enum : Definition) : Prop where
  filled : enum.fields ≠ []
  names : (enum.fields.map (·.name)).Nodup
  zeroFirst : file.dialect = .proto3 → ∃ first, enum.fields.head? = some first ∧ first.number = 0

/-- A service. What its methods take and return are messages, looked for from the file itself. -/
structure LawfulService (file : File) (service : Service) : Prop where
  name : service.name ∉ file.definitions.map (·.name)
  methods : (service.methods.map (·.name)).Nodup
  typed
    : ∀ method ∈ service.methods,
      ∀ type ∈ [method.inputType, method.outputType],
        ∃ message, file.resolve "" type = some (.definition message) ∧ message.kind = .message

/-- All rules of a file, except that no message contains itself. -/
structure File.Lawful (file : File) : Prop where
  names : (file.definitions.map (·.name)).Nodup
  enums : ∀ enum ∈ file.definitions, enum.kind = .enum → LawfulEnum file enum
  messages : ∀ message ∈ file.definitions, message.kind = .message → LawfulMessage file message
  serviceNames : (file.services.map (·.name)).Nodup
  services : ∀ service ∈ file.services, LawfulService file service

-----------------------------------------------------------------------------------------
-- What is checked
-----------------------------------------------------------------------------------------

variable {file : File}

/-- The numbers that are allowed are those up to 536870911 apart from the reserved ones. -/
theorem numberAllowed_iff {number : Int32}
    : NumberAllowed number
      ↔ (1 ≤ number.toInt ∧ number.toInt ≤ 536870911)
        ∧ ¬(19000 ≤ number.toInt ∧ number.toInt ≤ 19999) := by
  have positive : 0 < number ↔ 1 ≤ number.toInt := by
    rw [Int32.lt_iff_toInt_lt]
    exact Int.lt_iff_add_one_le
  constructor
  · intro allowed
    refine ⟨⟨positive.mp allowed.positive, Int32.le_iff_toInt_le.mp allowed.small⟩, ?_⟩
    simpa only [Int32.le_iff_toInt_le, Int32.reduceToInt] using allowed.unreserved
  · intro ⟨⟨low, high⟩, free⟩
    refine ⟨positive.mpr low, Int32.le_iff_toInt_le.mpr high, ?_⟩
    simpa only [Int32.le_iff_toInt_le, Int32.reduceToInt] using free

/-- What the type of a key may be: a scalar of most kinds, and nothing else. -/
theorem isMapKey_iff {scope name : String} {target : Target}
    (resolved : file.resolve scope name = some target)
    : target.isMapKey ↔ ∃ kind, target = .scalar kind ∧ kind ∉ [.float, .double, .bytes] := by
  cases target with
  | definition found => simp [Target.isMapKey]
  | scalar kind =>
      have scalar := isScalar_of_ofKeyword? (File.resolve_scalar resolved)
      simp only [Target.isMapKey, Target.scalar.injEq, exists_eq_left']
      cases kind <;> simp_all [FieldKind.isMapKey, FieldKind.isScalar]

/-- A label is that of a group if it is one of two. -/
theorem isGroup_iff {label : Label} : label.isGroup ↔ label = .group ∨ label = .repeatedGroup := by
  cases label <;> simp [Label.isGroup]

/-- A field that has a type is allowed exactly if it is lawful. -/
theorem fieldAllowed_iff {message : Definition} {field : Field}
    (typed : ∃ type, field.type = some type)
    : FieldAllowed file message field ↔ LawfulField file message field := by
  have dialect : file.dialect = .proto2 ↔ ¬file.dialect = .proto3 := by
    cases file.dialect <;> simp
  obtain ⟨type, same⟩ := typed
  constructor
  · intro allowed
    obtain ⟨range, free⟩ := numberAllowed_iff.mp allowed.number
    obtain ⟨target, resolved, mapKey, entry⟩ := allowed.type type same
    refine ⟨range, free, fun newer => ?_, type, target, same, resolved, ?_, ?_⟩
    · have single : ¬field.label.isGroup :=
        fun group => dialect.mp (allowed.group group) newer
      rwa [isGroup_iff, not_or] at single
    · intro inEntry first
      exact (isMapKey_iff resolved).mp (mapKey inEntry first)
    · intro found is isEntry
      rw [is] at entry
      exact entry isEntry
  · intro lawful
    obtain ⟨_, target, again, resolved, mapKey, entry⟩ := lawful.typed
    cases same.symm.trans again
    refine ⟨numberAllowed_iff.mpr ⟨lawful.number, lawful.unreserved⟩, fun group => ?_, ?_⟩
    · refine dialect.mpr fun newer => ?_
      obtain ⟨single, notRepeated⟩ := lawful.group newer
      exact (isGroup_iff.mp group).elim single notRepeated
    · intro other is
      cases same.symm.trans is
      refine ⟨target, resolved, fun inEntry first => ?_, fun isEntry => ?_⟩
      · exact (isMapKey_iff resolved).mpr (mapKey inEntry first)
      · cases target with
        | scalar kind => cases isEntry
        | definition found => exact entry found rfl isEntry

/-- An enum is allowed exactly if it is lawful. -/
theorem enumAllowed_iff {enum : Definition} : EnumAllowed file enum ↔ LawfulEnum file enum := by
  constructor
  · intro allowed
    refine ⟨allowed.filled, allowed.names, fun newer => ?_⟩
    have begins := List.head?_eq_some_head allowed.filled
    exact ⟨_, begins, allowed.zeroFirst newer _ begins⟩
  · intro lawful
    refine ⟨lawful.filled, lawful.names, fun newer first begins => ?_⟩
    obtain ⟨other, same, zero⟩ := lawful.zeroFirst newer
    cases begins.symm.trans same
    exact zero

/-- The types of a method are allowed exactly if both are messages. -/
theorem methodTyped_iff {method : Rpc}
    : MethodTyped file method
      ↔ ∀ type ∈ [method.inputType, method.outputType],
          ∃ message, file.resolve "" type = some (.definition message) ∧ message.kind = .message
    := by
  have message (type : String)
      : (∃ message, file.resolveMessage? type = some message)
        ↔ ∃ message, file.resolve "" type = some (.definition message)
            ∧ message.kind = .message := by
    refine exists_congr fun message => ?_
    simp only [File.resolveMessage?, Option.bind_eq_bind, Option.bind_eq_some_iff,
      Target.message?_eq_some]
    constructor
    · intro ⟨target, resolved, is, kind⟩
      exact ⟨is ▸ resolved, kind⟩
    · intro ⟨resolved, kind⟩
      exact ⟨_, resolved, rfl, kind⟩
  simp only [List.forall_mem_cons, ← message]
  constructor
  · intro ⟨input, output, takes, returns⟩
    exact ⟨⟨input, takes⟩, ⟨output, returns⟩, nofun⟩
  · intro ⟨⟨input, takes⟩, ⟨output, returns⟩, _⟩
    exact ⟨input, output, takes, returns⟩

/-- In a file whose fields have types, the rules that are checked are all that there are. -/
theorem keepsRules_iff (accompanied : Accompanied file.definitions file.definitions)
    : file.KeepsRules ↔ file.Lawful := by
  have field {message : Definition} (member : message ∈ file.definitions)
      (kind : message.kind = .message) {field : Field} (inside : field ∈ message.fields)
      : FieldAllowed file message field ↔ LawfulField file message field :=
    fieldAllowed_iff (accompanied message member kind field inside).typed
  constructor
  · intro keeps
    refine ⟨keeps.names, ?_, ?_, keeps.serviceNames, ?_⟩
    · intro enum member kind
      exact enumAllowed_iff.mp (keeps.enums enum member kind)
    · intro message member kind
      have allowed := keeps.messages message member kind
      refine ⟨allowed.names, allowed.numbers, fun item inside => ?_⟩
      exact (field member kind inside).mp (allowed.fields item inside)
    · intro service member
      have allowed := keeps.services service member
      refine ⟨allowed.name, allowed.methods, fun method inside => ?_⟩
      exact methodTyped_iff.mp (allowed.typed method inside)
  · intro lawful
    refine ⟨lawful.names, ?_, ?_, lawful.serviceNames, ?_⟩
    · intro enum member kind
      exact enumAllowed_iff.mpr (lawful.enums enum member kind)
    · intro message member kind
      have allowed := lawful.messages message member kind
      refine ⟨allowed.names, allowed.numbers, fun item inside => ?_⟩
      exact (field member kind inside).mpr (allowed.fields item inside)
    · intro service member
      have allowed := lawful.services service member
      refine ⟨allowed.name, allowed.methods, fun method inside => ?_⟩
      exact methodTyped_iff.mpr (allowed.typed method inside)

-----------------------------------------------------------------------------------------
-- Files that are read
-----------------------------------------------------------------------------------------

/-- A file that was read, and in which no message contains itself, is accepted exactly if it keeps
the rules. -/
theorem check_eq_ok_iff_lawful {tokens : Tokens} (parsed : parse tokens = .ok file)
    (acyclic : file.Acyclic)
    : file.check = .ok () ↔ file.Lawful := by
  have accompanied := (parse_written parsed).definitions.accompanied
  rw [← keepsRules_iff accompanied, ← File.checkDeclarations_eq_ok, File.check, check_bind_eq_ok]
  exact and_iff_left (File.checkNesting_eq_ok.mpr acyclic)

/-- An enum, a message with a map of it, and a service over the message. -/
def parcels : File :=
  { File.empty with
    dialect := .proto3,
    definitions :=
      [
        ⟨"Size", ⟨1, 25⟩, .enum,
          [⟨"S", ⟨1, 32⟩, none, .singular, 0⟩, ⟨"L", ⟨1, 39⟩, none, .singular, 1⟩], false⟩,
        ⟨"Parcel", ⟨1, 56⟩, .message,
          [⟨"sizes", ⟨1, 83⟩, some "Parcel.SizesEntry", .map, 1⟩], false⟩,
        ⟨"Parcel.SizesEntry", ⟨1, 83⟩, .message,
          [
            ⟨"key", ⟨1, 69⟩, some "string", .singular, 1⟩,
            ⟨"value", ⟨1, 77⟩, some "Size", .singular, 2⟩
          ], true⟩
      ],
    services := [⟨"Depot", ⟨1, 104⟩, [⟨"Send", ⟨1, 116⟩, "Parcel", "Parcel"⟩]⟩] }

def parcelsText : String :=
  "syntax = \"proto3\"; "
    ++ "enum Size \x7b S = 0; L = 1; \x7d "
    ++ "message Parcel \x7b map<string, Size> sizes = 1; \x7d "
    ++ "service Depot \x7b rpc Send (Parcel) returns (Parcel); \x7d"

/-- The file of parcels is lawful, as its check passes. -/
theorem check_eq_ok_iff_lawful_parcels
    : File.ofText parcelsText = .ok parcels
      ∧ parcels.Acyclic
      ∧ (parcels.check = .ok () ↔ parcels.Lawful)
      ∧ parcels.Lawful := by
  have read : File.ofText parcelsText = .ok parcels := toOption_eq_some.mp (by decide +kernel)
  obtain ⟨tokens, _, parsed⟩ := bind_eq_ok.mp read
  have nested : parcels.checkNesting = .ok () := toOption_eq_some.mp (by decide +kernel)
  have acyclic : parcels.Acyclic := File.checkNesting_eq_ok.mp nested
  have decides := check_eq_ok_iff_lawful parsed acyclic
  have checked : parcels.check = .ok () := toOption_eq_some.mp (by decide +kernel)
  exact ⟨read, acyclic, decides, decides.mp checked⟩

end GrpcMock.Proto
