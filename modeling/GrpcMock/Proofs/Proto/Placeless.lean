import GrpcMock.Proofs.Proto.Describes
import GrpcMock.Proofs.Proto.Rules
import GrpcMock.Proofs.Proto.Unplaced

/-!
Files that differ in places only break the same rule, or declare the same package. What a definition
is called is left when its place is not, and as names are distinct, the search for cycles takes the
same way.
-/

namespace GrpcMock.Proto

-----------------------------------------------------------------------------------------
-- Names
-----------------------------------------------------------------------------------------

/-- A key that is no place is the same without places. -/
theorem map_unplaced_key {α β : Type} [Placed α] {key : α → β}
    (same : ∀ value, key (unplaced value) = key value) (values : List α)
    : (unplaced values).map key = values.map key := by
  change (values.map unplaced).map key = values.map key
  rw [List.map_map]
  exact List.map_congr_left fun value _ => same value

instance : Placed Target :=
  ⟨fun
    | .scalar kind => .scalar kind
    | .definition definition => .definition (unplaced definition)⟩

/-- A target is a message or not, with its place and without. -/
theorem Target.message?_unplaced (target : Target)
    : (unplaced target).message? = unplaced target.message? := by
  cases target with
  | scalar kind => rfl
  | definition found =>
      change (if found.kind = .message then _ else _) = unplaced (ite (found.kind = .message) _ _)
      split <;> rfl

namespace File

variable (file : File)

/-- A definition is found by its name, so without places the same one is found. -/
theorem definition?_unplaced (name : String)
    : (unplaced file).definition? name = unplaced (file.definition? name) := by
  change (file.definitions.map unplaced).reverse.find? _ = _
  rw [← List.map_reverse]
  exact List.find?_map ..

/-- So it is by its full name, which the package is taken off from first. -/
theorem definitionAt?_unplaced (fullName : String)
    : (unplaced file).definitionAt? fullName = unplaced (file.definitionAt? fullName) := by
  unfold definitionAt?
  change file.relative? fullName >>= _ = unplaced (file.relative? fullName >>= _)
  cases file.relative? fullName with
  | none => rfl
  | some name => exact file.definition?_unplaced name

/-- A search from a scope outwards ends at the same scope, by induction on the scopes. -/
theorem searchOutwards_unplaced (name : String) (path : List String)
    : (unplaced file).searchOutwards name path = unplaced (file.searchOutwards name path) := by
  induction path with
  | nil => exact file.definitionAt?_unplaced name
  | cons inner outer ih =>
      rw [searchOutwards, searchOutwards, definitionAt?_unplaced]
      cases file.definitionAt? (nameUnder (inner :: outer).reverse name) with
      | none => exact ih
      | some found => rfl

/-- A name refers to the same target without places, whether scalar, absolute or relative. -/
theorem resolve_unplaced (scope name : String)
    : (unplaced file).resolve scope name = unplaced (file.resolve scope name) := by
  unfold resolve
  cases FieldKind.ofKeyword? name with
  | some kind => rfl
  | none =>
      dsimp only
      cases Text.stripStart? "." name with
      | some fullName =>
          dsimp only
          rw [definitionAt?_unplaced]
          cases file.definitionAt? fullName <;> rfl
      | none =>
          change ((unplaced file).searchOutwards name (file.scopeParts scope).reverse).map _ = _
          rw [searchOutwards_unplaced]
          dsimp only
          cases file.searchOutwards name (file.scopeParts scope).reverse <;> rfl

/-- The message that a name refers to in a scope is the same one, without its place. -/
theorem resolve_message?_unplaced (scope name : String)
    : ((unplaced file).resolve scope name >>= Target.message?)
      = unplaced (file.resolve scope name >>= Target.message?) := by
  rw [resolve_unplaced]
  cases file.resolve scope name with
  | none => rfl
  | some target => exact target.message?_unplaced

/-- The type of a method is the same message without places. -/
theorem resolveMessage?_unplaced (name : String)
    : (unplaced file).resolveMessage? name = unplaced (file.resolveMessage? name) :=
  file.resolve_message?_unplaced "" name

end File

-----------------------------------------------------------------------------------------
-- Rules
-----------------------------------------------------------------------------------------

section Rules

variable (file : File)

/-- Refusing depends on the truth of a condition, not on how it is put. -/
theorem refuse_congr {condition other : Prop} [Decidable condition] [Decidable other]
    {violation : Violation} (same : condition ↔ other)
    : refuse condition violation = refuse other violation := by
  simp only [refuse, same]

/-- A check that does not look at places passes for the same lists of items. -/
theorem checkEach_unplaced {α : Type} [Placed α]
    {check other : List α → α → Except Violation Unit}
    (same : ∀ before item, other (unplaced before) (unplaced item) = check before item)
    (before items : List α)
    : checkEach other (unplaced before) (unplaced items) = checkEach check before items := by
  induction items generalizing before with
  | nil => rfl
  | cons item rest ih =>
      change (other (unplaced before) (unplaced item) >>= fun _ =>
        checkEach other (unplaced (item :: before)) (unplaced rest)) = _
      rw [same, ih]
      rfl

/-- A definition has a name of its own or not, with places and without. -/
theorem checkTypeName_unplaced (before : List Definition) (definition : Definition)
    : checkTypeName (unplaced before) (unplaced definition) = checkTypeName before definition := by
  unfold checkTypeName
  rw [map_unplaced_key fun _ => rfl]
  rfl

/-- A value of an enum breaks the same rule without places, as only names and numbers are looked
at. -/
theorem checkValue_unplaced (enum : Definition) (before : List Field) (value : Field)
    : checkValue (unplaced enum) (unplaced before) (unplaced value)
      = checkValue enum before value := by
  unfold checkValue
  rw [map_unplaced_key fun _ => rfl]
  rfl

/-- An enum is checked alike without places: that it has values, and what it begins with. -/
theorem checkEnum_unplaced (enum : Definition)
    : checkEnum (unplaced file) (unplaced enum) = checkEnum file enum := by
  have values := checkEach_unplaced (checkValue_unplaced enum) [] enum.fields
  have empty : (unplaced enum).fields = [] ↔ enum.fields = [] := List.map_eq_nil_iff
  have first
      : (unplaced enum).fields.head?.any (·.number ≠ 0)
        = enum.fields.head?.any (·.number ≠ 0) := by
    obtain ⟨_, _, _, _ | _, _⟩ := enum <;> rfl
  unfold checkEnum
  rw [refuse_congr empty, first]
  exact congrArg _ (funext fun _ => congrArg _ (funext fun _ => values))

/-- The number of a field is checked alike without places. -/
theorem checkNumber_unplaced (before : List Field) (field : Field)
    : checkNumber (unplaced before) (unplaced field) = checkNumber before field := by
  unfold checkNumber
  rw [map_unplaced_key fun _ => rfl]
  rfl

/-- The type of a field is checked alike, as it resolves to the same target. -/
theorem checkType_unplaced (message : Definition) (field : Field) (type : String)
    : checkType (unplaced file) (unplaced message) (unplaced field) type
      = checkType file message field type := by
  have name : (unplaced message).name = message.name := rfl
  unfold checkType
  rw [name, File.resolve_unplaced]
  cases file.resolve message.name type with
  | none => rfl
  | some target => cases target <;> rfl

/-- A field is checked alike against the fields before it. -/
theorem checkField_unplaced (message : Definition) (before : List Field) (field : Field)
    : checkField (unplaced file) (unplaced message) (unplaced before) (unplaced field)
      = checkField file message before field := by
  have type : (unplaced field).type = field.type := rfl
  unfold checkField
  rw [map_unplaced_key fun _ => rfl, checkNumber_unplaced, type]
  refine bind_congr fun _ => bind_congr fun _ => bind_congr fun _ => ?_
  cases field.type with
  | none => rfl
  | some type => exact checkType_unplaced file message field type

/-- A definition is checked alike, by its kind. -/
theorem checkDefinition_unplaced (definition : Definition)
    : checkDefinition (unplaced file) (unplaced definition) = checkDefinition file definition := by
  have kind : (unplaced definition).kind = definition.kind := rfl
  unfold checkDefinition
  rw [kind]
  cases definition.kind with
  | enum => exact checkEnum_unplaced file definition
  | message => exact checkEach_unplaced (checkField_unplaced file definition) [] definition.fields

/-- What a method takes or returns is a message in both files or in neither. -/
theorem checkMethodType_unplaced (method : Rpc) (type : String)
    : checkMethodType (unplaced file) (unplaced method) type
      = checkMethodType file method type := by
  unfold checkMethodType
  rw [File.resolveMessage?_unplaced]
  exact refuse_congr Option.map_eq_none_iff

/-- A method is checked alike against the methods before it. -/
theorem checkMethod_unplaced (service : Service) (before : List Rpc) (method : Rpc)
    : checkMethod (unplaced file) (unplaced service) (unplaced before) (unplaced method)
      = checkMethod file service before method := by
  unfold checkMethod
  rw [map_unplaced_key fun _ => rfl, checkMethodType_unplaced, checkMethodType_unplaced]
  rfl

/-- A service is checked alike against the definitions and the services before it. -/
theorem checkService_unplaced (before : List Service) (service : Service)
    : checkService (unplaced file) (unplaced before) (unplaced service)
      = checkService file before service := by
  have names : (unplaced file).definitions.map (·.name) = file.definitions.map (·.name) :=
    map_unplaced_key (fun _ => rfl) file.definitions
  unfold checkService
  rw [map_unplaced_key fun _ => rfl]
  refine congrArg₂ _ (refuse_congr (or_congr .rfl (iff_of_eq (congrArg _ names)))) ?_
  exact funext fun _ => checkEach_unplaced (checkMethod_unplaced file service) [] service.methods

/-- The rules for single declarations are kept or broken alike, in the same order. -/
theorem File.checkDeclarations_unplaced
    : (unplaced file).checkDeclarations = file.checkDeclarations := by
  have names := checkEach_unplaced checkTypeName_unplaced [] file.definitions
  have definitions
      : checkEach (fun _ => checkDefinition (unplaced file)) [] (unplaced file).definitions
        = checkEach (fun _ => checkDefinition file) [] file.definitions :=
    checkEach_unplaced (fun _ => checkDefinition_unplaced file) [] file.definitions
  have services := checkEach_unplaced (checkService_unplaced file) [] file.services
  unfold checkDeclarations
  rw [← names, ← definitions, ← services]
  rfl

end Rules

-----------------------------------------------------------------------------------------
-- Nesting
-----------------------------------------------------------------------------------------

namespace File

variable {file : File}

/-- Definitions are told apart by their names alone. -/
theorem unplaced_inj (names : (file.definitions.map (·.name)).Nodup) {left right : Definition}
    (hl : left ∈ file.definitions) (hr : right ∈ file.definitions)
    (same : unplaced left = unplaced right)
    : left = right :=
  have named := congrArg (fun definition : Definition => definition.name) same
  List.inj_on_of_nodup_map names hl hr named

/-- Among definitions of a file, one is found without places exactly if it is found with them. -/
theorem mem_unplaced_iff (names : (file.definitions.map (·.name)).Nodup)
    {message : Definition} {definitions : List Definition} (member : message ∈ file.definitions)
    (included : definitions ⊆ file.definitions)
    : unplaced message ∈ unplaced definitions ↔ message ∈ definitions := by
  constructor
  · intro inside
    obtain ⟨other, found, same⟩ := List.mem_map.mp inside
    exact unplaced_inj names (included found) member same ▸ found
  · exact List.mem_map_of_mem

/-- A definition can be taken out before or after the places, as no other one turns into it. -/
theorem erase_unplaced (names : (file.definitions.map (·.name)).Nodup)
    {message : Definition} {room : List Definition} (member : message ∈ file.definitions)
    (included : room ⊆ file.definitions)
    : (unplaced room).erase (unplaced message) = unplaced (room.erase message) := by
  induction room with
  | nil => rfl
  | cons first rest ih =>
      obtain ⟨inside, others⟩ := List.cons_subset.mp included
      change (unplaced first :: unplaced rest).erase (unplaced message) = _
      by_cases same : first = message
      · subst same
        rw [List.erase_cons_head, List.erase_cons_head]
      · have apart : unplaced first ≠ unplaced message :=
          fun alike => same (unplaced_inj names inside member alike)
        rw [List.erase_cons_tail (by simpa using apart), List.erase_cons_tail (by simpa using same),
          ih others]
        rfl

/-- A message refers to the same messages in the same order. -/
theorem references_unplaced (file : File) (message : Definition)
    : (unplaced file).references (unplaced message) = unplaced (file.references message) := by
  have each (field : Field)
      : (do
          let type ← (unplaced field).type
          let target ← (unplaced file).resolve message.name type
          target.message?)
        = unplaced (do
            let type ← field.type
            let target ← file.resolve message.name type
            target.message?) := by
    change field.type >>= _ = _
    cases field.type with
    | none => rfl
    | some type => exact file.resolve_message?_unplaced message.name type
  unfold references
  change (message.fields.map unplaced).filterMap _ = (message.fields.filterMap _).map unplaced
  rw [List.filterMap_map, List.map_filterMap]
  exact List.filterMap_congr fun field _ => each field

/-- A search finds some of the definitions of a file, and without their places another search finds
the same. -/
def SearchedAlike (file : File) (result other : Except Violation (List Definition)) : Prop :=
  other = result.map unplaced ∧ ∀ found, result = .ok found → found ⊆ file.definitions

/-- The search goes the same way without places, by induction along it. -/
theorem follow_unplaced (names : (file.definitions.map (·.name)).Nodup)
    : (∀ room cleared message,
        room ⊆ file.definitions
        → cleared ⊆ file.definitions
        → message ∈ file.definitions
        → file.SearchedAlike (file.follow room cleared message)
            ((unplaced file).follow (unplaced room) (unplaced cleared) (unplaced message)))
      ∧ ∀ room cleared messages,
          room ⊆ file.definitions
          → cleared ⊆ file.definitions
          → messages ⊆ file.definitions
          → file.SearchedAlike (file.followAll room cleared messages)
              ((unplaced file).followAll (unplaced room) (unplaced cleared)
                (unplaced messages)) := by
  apply follow.mutual_induct
  case case1 =>
    intro room cleared message known _ hc member
    rw [follow, follow, if_pos known, if_pos ((mem_unplaced_iff names member hc).mpr known)]
    refine ⟨rfl, fun found same => ?_⟩
    cases same
    exact hc
  case case2 =>
    intro room cleared message fresh inside ih hr hc member
    have fewer : room.erase message ⊆ file.definitions := fun _ left =>
      hr (List.mem_of_mem_erase left)
    have searched := ih fewer hc fun target reference => (mem_references.mp reference).mem
    rw [follow, follow, if_neg fresh, if_pos inside,
      if_neg (mt (mem_unplaced_iff names member hc).mp fresh),
      if_pos ((mem_unplaced_iff names member hr).mpr inside), erase_unplaced names member hr,
      references_unplaced, searched.1]
    cases result : file.followAll (room.erase message) cleared (file.references message) with
    | error violation => exact ⟨rfl, fun found same => nomatch same⟩
    | ok found =>
        refine ⟨rfl, fun all same => ?_⟩
        cases same
        exact List.cons_subset.mpr ⟨member, searched.2 found result⟩
  case case3 =>
    intro room cleared message fresh outside hr hc member
    rw [follow, follow, if_neg fresh, if_neg outside,
      if_neg (mt (mem_unplaced_iff names member hc).mp fresh),
      if_neg (mt (mem_unplaced_iff names member hr).mp outside)]
    exact ⟨rfl, fun found same => nomatch same⟩
  case case4 =>
    intro room cleared _ hc _
    rw [followAll]
    refine ⟨followAll.eq_1 .., fun found same => ?_⟩
    cases same
    exact hc
  case case5 =>
    intro room cleared message rest first others hr hc included
    obtain ⟨member, later⟩ := List.cons_subset.mp included
    have searched := first hr hc member
    change file.SearchedAlike _
      ((unplaced file).followAll _ _ (unplaced message :: unplaced rest))
    rw [followAll, followAll, searched.1]
    cases result : file.follow room cleared message with
    | error violation => exact ⟨rfl, fun found same => nomatch same⟩
    | ok found => exact others found hr (searched.2 found result) later

/-- A file with distinct names has a cycle exactly if it has it without places. -/
theorem checkNesting_unplaced (names : (file.definitions.map (·.name)).Nodup)
    : (unplaced file).checkNesting = file.checkNesting := by
  have searched :=
    (follow_unplaced names).2 file.definitions [] (file.definitions.filter (·.kind = .message))
      (List.Subset.refl _) (List.nil_subset _) (List.filter_subset_self _)
  have messages
      : (unplaced file).definitions.filter (·.kind = .message)
        = unplaced (file.definitions.filter (·.kind = .message)) :=
    List.filter_map ..
  simp only [checkNesting, messages]
  refine (congrArg (Except.map fun _ => ()) searched.1).trans ?_
  cases file.followAll file.definitions [] _ <;> rfl

/-- A file breaks a rule if it does so without places, and it is the same rule. -/
theorem check_unplaced (file : File) : (unplaced file).check = file.check := by
  unfold check
  rw [checkDeclarations_unplaced]
  cases declared : file.checkDeclarations with
  | error => rfl
  | ok => exact checkNesting_unplaced (File.Allowed.of_check declared).names

-----------------------------------------------------------------------------------------
-- Schemas
-----------------------------------------------------------------------------------------

/-- The schema of an enum holds no places. -/
theorem enumSchema_unplaced (file : File) (enum : Definition)
    : (unplaced file).enumSchema (unplaced enum) = file.enumSchema enum := by
  unfold enumSchema
  exact congrArg (EnumSchema.mk _ _) (map_unplaced_key (fun _ => rfl) enum.fields)

/-- A name that refers to a definition refers to the same one without its place. -/
theorem resolve_definition_unplaced {scope name : String} {found : Definition}
    (resolved : file.resolve scope name = some (.definition found))
    : (unplaced file).resolve scope name = some (.definition (unplaced found)) := by
  rw [resolve_unplaced, resolved]
  rfl

mutual
/-- The schema of a message is the same without places, by induction on what it is made of. -/
theorem Describes.placeless {message : Definition} {schema : MessageSchema}
    : file.Describes message schema
      → (unplaced file).Describes (unplaced message) schema
  | .message fields => .message fields.placeless

/-- So are the schemas of its fields, one by one. -/
theorem DescribesFields.placeless {message : Definition} {fields : List Field}
    {schemas : List FieldSchema}
    : file.DescribesFields message fields schemas
      → (unplaced file).DescribesFields (unplaced message) (unplaced fields) schemas
  | .nil => .nil
  | .cons first rest => .cons first.placeless rest.placeless

/-- So is what the type of a field is linked to, in each of the three ways. -/
theorem DescribesType.placeless {message : Definition} {field : Field} {schema : FieldSchema}
    : file.DescribesType message field schema
      → (unplaced file).DescribesType (unplaced message) (unplaced field) schema
  | .scalar resolved => .scalar (by rw [resolve_unplaced]; exact congrArg _ resolved)
  | .enum resolved kind =>
      file.enumSchema_unplaced _ ▸ .enum (resolve_definition_unplaced resolved) kind
  | .message resolved kind described =>
      .message (resolve_definition_unplaced resolved) kind described.placeless
end

/-- The messages of a file are those among its definitions, so their places can be taken away
last. -/
theorem messages_unplaced (file : File) : (unplaced file).messages = unplaced file.messages :=
  List.filter_map ..

/-- The same goes for its enums. -/
theorem enums_unplaced (file : File) : (unplaced file).enums = unplaced file.enums :=
  List.filter_map ..

/-- A name in a method is described by the same schema without places. -/
theorem DescribesName.placeless {name : String} {schema : MessageSchema}
    (h : file.DescribesName name schema)
    : (unplaced file).DescribesName name schema := by
  obtain ⟨message, resolved, described⟩ := h
  refine ⟨unplaced message, ?_, described.placeless⟩
  rw [resolveMessage?_unplaced, resolved]
  rfl

/-- A method is described by the same schema without places. -/
theorem DescribesMethod.placeless {method : Rpc} {schema : MethodSchema}
    (h : file.DescribesMethod method schema)
    : (unplaced file).DescribesMethod (unplaced method) schema :=
  ⟨h.name, h.goName, h.input.placeless, h.output.placeless⟩

/-- A service is described by the same schema without places, method by method. -/
theorem DescribesService.placeless {service : Service} {schema : ServiceSchema}
    (h : file.DescribesService service schema)
    : (unplaced file).DescribesService (unplaced service) schema :=
  ⟨h.name, h.fullName, h.goName,
    List.forall₂_map_left_iff.mpr (h.methods.imp fun _ _ => DescribesMethod.placeless)⟩

/-- A file declares what it declares without places. -/
theorem Declares.placeless {package : Package} (h : file.Declares package)
    : (unplaced file).Declares package := by
  refine ⟨h.name, h.goPackage, ?_, ?_, ?_⟩
  · rw [messages_unplaced]
    exact List.forall₂_map_left_iff.mpr (h.messages.imp fun _ _ => Describes.placeless)
  · rw [enums_unplaced, h.enums]
    exact (map_unplaced_key file.enumSchema_unplaced file.enums).symm
  · exact List.forall₂_map_left_iff.mpr (h.services.imp fun _ _ => DescribesService.placeless)

end File

end GrpcMock.Proto
