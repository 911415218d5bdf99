import GrpcMock.Outcome
import GrpcMock.Proto.Rules
import Mathlib.Data.List.Induction
import Mathlib.Data.List.Nodup

/-!
What the rules of a schema file say of a file that keeps them. Each check is equivalent to a
statement without the order in which things are checked.
-/

namespace GrpcMock.Proto

-----------------------------------------------------------------------------------------
-- Checks of each item against those before it
-----------------------------------------------------------------------------------------

/-- What is refused under a condition passes without it. -/
theorem refuse_eq_ok {condition : Prop} [Decidable condition] {violation : Violation}
    : refuse condition violation = .ok () ↔ ¬condition := by
  unfold refuse
  split <;> simp_all

section Each

variable {α : Type}

/-- A list passes if each item passes with what stands before it, by induction on the list. -/
theorem checkEach_eq_ok {check : List α → α → Except Violation Unit} {before items : List α}
    : checkEach check before items = .ok ()
      ↔ ∀ earlier item later,
          items = earlier ++ item :: later → check (earlier.reverse ++ before) item = .ok () := by
  induction items generalizing before with
  | nil => simp [checkEach]
  | cons first rest ih =>
      simp only [checkEach, check_bind_eq_ok, ih]
      constructor
      · rintro ⟨head, tail⟩ earlier item later split
        cases earlier with
        | nil =>
            cases split
            exact head
        | cons other earlier =>
            cases split
            simpa using tail earlier item later rfl
      · intro all
        refine ⟨all [] first rest rfl, fun earlier item later split => ?_⟩
        simpa [split] using all (first :: earlier) item later (by simp [split])

/-- Items have distinct keys if no key occurs among those before it. -/
theorem nodup_map_iff {β : Type} {key : α → β} {items : List α}
    : (items.map key).Nodup
      ↔ ∀ earlier item later,
          items = earlier ++ item :: later → key item ∉ earlier.map key := by
  induction items using List.reverseRecOn with
  | nil => simp
  | append_singleton front last ih =>
      rw [List.map_append, List.nodup_append, ih]
      constructor
      · rintro ⟨distinct, -, apart⟩ earlier item later split
        rcases List.eq_nil_or_concat later with rfl | ⟨later, other, rfl⟩
        · obtain ⟨rfl, same⟩ := List.append_inj' split rfl
          cases same
          exact fun member => apart _ member _ (by simp) rfl
        · have shorter : front ++ [last] = (earlier ++ item :: later) ++ [other] := by simp [split]
          obtain ⟨rfl, -⟩ := List.append_inj' shorter rfl
          exact distinct earlier item later rfl
      · intro all
        refine ⟨fun earlier item later split => ?_, by simp, ?_⟩
        · exact all earlier item (later ++ [last]) (by simp [split])
        · rintro _ member _ last rfl
          rw [List.map_singleton, List.mem_singleton] at last
          exact all front _ [] rfl (last ▸ member)

/-- A check that refuses what has a key for the second time makes all keys distinct. -/
theorem checkEach_distinct {β : Type} {key : α → β} {holds : α → Prop} {items : List α}
    {check : List α → α → Except Violation Unit}
    (each : ∀ before item, check before item = .ok () ↔ key item ∉ before.map key ∧ holds item)
    : checkEach check [] items = .ok ()
      ↔ (items.map key).Nodup ∧ ∀ item ∈ items, holds item := by
  simp only [checkEach_eq_ok, each, List.append_nil, List.map_reverse, List.mem_reverse]
  constructor
  · intro all
    refine ⟨nodup_map_iff.mpr fun _ _ _ split => (all _ _ _ split).1, fun item member => ?_⟩
    obtain ⟨earlier, later, split⟩ := List.append_of_mem member
    exact (all earlier item later split).2
  · intro ⟨distinct, all⟩ earlier item later split
    exact ⟨nodup_map_iff.mp distinct _ _ _ split, all item (by simp [split])⟩

end Each

/-- The names of definitions pass if they are distinct. -/
theorem checkTypeNames_eq_ok {definitions : List Definition}
    : checkEach checkTypeName [] definitions = .ok () ↔ (definitions.map (·.name)).Nodup := by
  simp only [checkEach_eq_ok, nodup_map_iff, checkTypeName, refuse_eq_ok, List.append_nil,
    List.mem_map, List.mem_reverse]

-----------------------------------------------------------------------------------------
-- Fields
-----------------------------------------------------------------------------------------

/-- The numbers that a field may have. -/
structure NumberAllowed (number : Int32) : Prop where
  positive : 0 < number
  small : number ≤ greatestNumber
  unreserved : ¬(19000 ≤ number ∧ number ≤ 19999)

/-- What the rules ask of the type of a field of a message. -/
structure TypeAllowed (file : File) (message : Definition) (field : Field) (type : String)
    (target : Target) : Prop where
  resolved : file.resolve message.name type = some target
  mapKey : message.isMapEntry → field.number = 1 → target.isMapKey
  entry : target.isMapEntry → field.label = .map

/-- What the rules ask of a field of a message by itself. -/
structure FieldAllowed (file : File) (message : Definition) (field : Field) : Prop where
  number : NumberAllowed field.number
  group : field.label.isGroup → file.dialect = .proto2
  type : ∀ type, field.type = some type → ∃ target, TypeAllowed file message field type target

/-- A number passes if no earlier field has it and a field may have it. -/
theorem checkNumber_eq_ok {before : List Field} {field : Field}
    : checkNumber before field = .ok ()
      ↔ field.number ∉ before.map (·.number) ∧ NumberAllowed field.number := by
  simp only [checkNumber, check_bind_eq_ok, refuse_eq_ok, Int32.not_le, Int32.not_lt]
  exact ⟨fun ⟨fresh, low, high, free⟩ => ⟨fresh, low, high, free⟩,
    fun ⟨fresh, low, high, free⟩ => ⟨fresh, low, high, free⟩⟩

/-- A type passes if it resolves to a target that the field may have. -/
theorem checkType_eq_ok {file : File} {message : Definition} {field : Field} {type : String}
    : checkType file message field type = .ok ()
      ↔ ∃ target, TypeAllowed file message field type target := by
  unfold checkType
  cases resolved : file.resolve message.name type with
  | none =>
      refine ⟨fun fails => by simp at fails, fun ⟨_, allowed⟩ => ?_⟩
      rw [allowed.resolved] at resolved
      cases resolved
  | some target =>
      simp only [check_bind_eq_ok, refuse_eq_ok]
      constructor
      · rintro ⟨mapKey, entry⟩
        exact ⟨target, resolved, by simpa using mapKey, by simpa using entry⟩
      · rintro ⟨other, allowed⟩
        cases resolved.symm.trans allowed.resolved
        exact ⟨by simpa using allowed.mapKey, by simpa using allowed.entry⟩

/-- A field passes if its name and number are new and it is allowed by itself. -/
theorem checkField_eq_ok {file : File} {message : Definition} {before : List Field}
    {field : Field}
    : checkField file message before field = .ok ()
      ↔ field.name ∉ before.map (·.name)
        ∧ field.number ∉ before.map (·.number)
        ∧ FieldAllowed file message field := by
  have dialect : file.dialect = .proto2 ↔ ¬file.dialect = .proto3 := by
    cases file.dialect <;> simp
  simp only [checkField, check_bind_eq_ok, refuse_eq_ok, checkNumber_eq_ok, not_and]
  constructor
  · rintro ⟨name, ⟨fresh, number⟩, group, type⟩
    refine ⟨name, fresh, number, fun isGroup => dialect.mpr (group isGroup), ?_⟩
    intro text same
    rw [same] at type
    exact checkType_eq_ok.mp type
  · rintro ⟨name, fresh, number, group, type⟩
    refine ⟨name, ⟨fresh, number⟩, fun isGroup => dialect.mp (group isGroup), ?_⟩
    cases same : field.type with
    | none => rfl
    | some text => exact checkType_eq_ok.mpr (type text same)

-----------------------------------------------------------------------------------------
-- Definitions
-----------------------------------------------------------------------------------------

/-- What the rules ask of a message. -/
structure MessageAllowed (file : File) (message : Definition) : Prop where
  names : (message.fields.map (·.name)).Nodup
  numbers : (message.fields.map (·.number)).Nodup
  fields : ∀ field ∈ message.fields, FieldAllowed file message field

/-- The fields of a message pass if the message is allowed. -/
theorem checkFields_eq_ok {file : File} {message : Definition}
    : checkEach (checkField file message) [] message.fields = .ok ()
      ↔ MessageAllowed file message := by
  simp only [checkEach_eq_ok, checkField_eq_ok, List.append_nil, List.map_reverse,
    List.mem_reverse]
  constructor
  · intro all
    refine ⟨nodup_map_iff.mpr fun _ _ _ split => (all _ _ _ split).1,
      nodup_map_iff.mpr fun _ _ _ split => (all _ _ _ split).2.1, fun field member => ?_⟩
    obtain ⟨earlier, later, split⟩ := List.append_of_mem member
    exact (all earlier field later split).2.2
  · intro allowed earlier field later split
    refine ⟨nodup_map_iff.mp allowed.names _ _ _ split,
      nodup_map_iff.mp allowed.numbers _ _ _ split, allowed.fields field ?_⟩
    simp [split]

/-- What the rules ask of an enum. -/
structure EnumAllowed (file : File) (enum : Definition) : Prop where
  filled : enum.fields ≠ []
  names : (enum.fields.map (·.name)).Nodup
  zeroFirst : file.dialect = .proto3 → ∀ first ∈ enum.fields.head?, first.number = 0

/-- An enum passes if it is allowed. -/
theorem checkEnum_eq_ok {file : File} {enum : Definition}
    : checkEnum file enum = .ok () ↔ EnumAllowed file enum := by
  have values
      : checkEach (checkValue enum) [] enum.fields = .ok ()
        ↔ (enum.fields.map (·.name)).Nodup ∧ ∀ value ∈ enum.fields, True :=
    checkEach_distinct fun before value => by simp [checkValue, refuse_eq_ok]
  have begins
      : ¬(file.dialect = .proto3 ∧ enum.fields.head?.any (·.number ≠ 0))
        ↔ (file.dialect = .proto3 → ∀ first ∈ enum.fields.head?, first.number = 0) := by
    cases enum.fields.head? <;> simp
  simp only [checkEnum, check_bind_eq_ok, refuse_eq_ok, values, begins]
  constructor
  · intro ⟨filled, zeroFirst, names, _⟩
    exact ⟨filled, names, zeroFirst⟩
  · intro allowed
    exact ⟨allowed.filled, allowed.zeroFirst, allowed.names, fun _ _ => trivial⟩

-----------------------------------------------------------------------------------------
-- Services
-----------------------------------------------------------------------------------------

/-- The type of a method passes if it is a message. -/
theorem checkMethodType_eq_ok {file : File} {method : Rpc} {type : String}
    : checkMethodType file method type = .ok ()
      ↔ ∃ message, file.resolveMessage? type = some message := by
  rw [checkMethodType, refuse_eq_ok, ← ne_eq, Option.ne_none_iff_exists']

/-- What the rules ask of the types of a method. -/
def MethodTyped (file : File) (method : Rpc) : Prop :=
  ∃ input output,
    file.resolveMessage? method.inputType = some input
    ∧ file.resolveMessage? method.outputType = some output

/-- A method passes if its name is new and its types are messages. -/
theorem checkMethod_eq_ok {file : File} {service : Service} {before : List Rpc} {method : Rpc}
    : checkMethod file service before method = .ok ()
      ↔ method.name ∉ before.map (·.name) ∧ MethodTyped file method := by
  simp only [checkMethod, check_bind_eq_ok, refuse_eq_ok, checkMethodType_eq_ok]
  exact and_congr_right fun _ => exists_and_exists_comm

/-- What the rules ask of a service. -/
structure ServiceAllowed (file : File) (service : Service) : Prop where
  name : service.name ∉ file.definitions.map (·.name)
  methods : (service.methods.map (·.name)).Nodup
  typed : ∀ method ∈ service.methods, MethodTyped file method

/-- A service passes if its name is new and it is allowed by itself. -/
theorem checkService_eq_ok {file : File} {before : List Service} {service : Service}
    : checkService file before service = .ok ()
      ↔ service.name ∉ before.map (·.name) ∧ ServiceAllowed file service := by
  have methods
      : checkEach (checkMethod file service) [] service.methods = .ok ()
        ↔ (service.methods.map (·.name)).Nodup
          ∧ ∀ method ∈ service.methods, MethodTyped file method :=
    checkEach_distinct fun _ _ => checkMethod_eq_ok
  simp only [checkService, check_bind_eq_ok, refuse_eq_ok, methods, not_or]
  constructor
  · intro ⟨⟨fresh, name⟩, distinct, typed⟩
    exact ⟨fresh, name, distinct, typed⟩
  · intro ⟨fresh, allowed⟩
    exact ⟨⟨fresh, allowed.name⟩, allowed.methods, allowed.typed⟩

-----------------------------------------------------------------------------------------
-- Files
-----------------------------------------------------------------------------------------

/-- No two definitions share a name. -/
def File.Distinct (file : File) : Prop :=
  (file.definitions.map (·.name)).Nodup

/-- Definitions of one name are one definition. -/
theorem File.Distinct.definition_ext {file : File} (h : file.Distinct) {left right : Definition}
    (hl : left ∈ file.definitions) (hr : right ∈ file.definitions) (same : left.name = right.name)
    : left = right :=
  List.inj_on_of_nodup_map h hl hr same

/-- All that the rules ask of a file, except that no message contains itself. -/
structure File.KeepsRules (file : File) : Prop where
  names : file.Distinct
  enums : ∀ enum ∈ file.definitions, enum.kind = .enum → EnumAllowed file enum
  messages
    : ∀ message ∈ file.definitions, message.kind = .message → MessageAllowed file message
  serviceNames : (file.services.map (·.name)).Nodup
  services : ∀ service ∈ file.services, ServiceAllowed file service

/-- A definition passes if it is allowed, by its kind. -/
theorem checkDefinition_eq_ok {file : File} {definition : Definition}
    : checkDefinition file definition = .ok ()
      ↔ (definition.kind = .enum → EnumAllowed file definition)
        ∧ (definition.kind = .message → MessageAllowed file definition) := by
  unfold checkDefinition
  cases kind : definition.kind with
  | enum => simp [checkEnum_eq_ok]
  | message => simp [checkFields_eq_ok]

/-- The checks pass for the files that keep the rules, and for no others. -/
theorem File.checkDeclarations_eq_ok {file : File}
    : file.checkDeclarations = .ok () ↔ file.KeepsRules := by
  have services
      : checkEach (checkService file) [] file.services = .ok ()
        ↔ (file.services.map (·.name)).Nodup
          ∧ ∀ service ∈ file.services, ServiceAllowed file service :=
    checkEach_distinct fun _ _ => checkService_eq_ok
  have definitions
      : checkEach (fun _ => checkDefinition file) [] file.definitions = .ok ()
        ↔ ∀ definition ∈ file.definitions, checkDefinition file definition = .ok () := by
    rw [checkEach_eq_ok]
    constructor
    · intro all definition member
      obtain ⟨earlier, later, split⟩ := List.append_of_mem member
      exact all earlier definition later split
    · intro all earlier definition later split
      exact all definition (by simp [split])
  simp only [checkDeclarations, check_bind_eq_ok, checkTypeNames_eq_ok, definitions, services,
    checkDefinition_eq_ok]
  constructor
  · intro ⟨names, each, serviceNames, services⟩
    exact ⟨names, fun enum member => (each enum member).1,
      fun message member => (each message member).2, serviceNames, services⟩
  · intro keeps
    exact ⟨keeps.names, fun definition member =>
      ⟨keeps.enums definition member, keeps.messages definition member⟩,
      keeps.serviceNames, keeps.services⟩

/-- What linking needs of the rules that a file keeps. -/
structure File.Allowed (file : File) : Prop where
  names : file.Distinct
  messages
    : ∀ message ∈ file.definitions, message.kind = .message → MessageAllowed file message
  methods : ∀ service ∈ file.services, ∀ method ∈ service.methods, MethodTyped file method

/-- A file whose declarations pass is allowed. -/
theorem File.Allowed.of_check {file : File} (h : file.checkDeclarations = .ok ())
    : file.Allowed := by
  have keeps := checkDeclarations_eq_ok.mp h
  exact ⟨keeps.names, keeps.messages, fun service member => (keeps.services service member).typed⟩

end GrpcMock.Proto
