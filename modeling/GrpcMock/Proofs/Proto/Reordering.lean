import GrpcMock.Proofs.Proto.Image
import GrpcMock.Proofs.Proto.Lawful
import GrpcMock.Proofs.Proto.Linking
import GrpcMock.Proofs.Proto.Scope
import Mathlib.Data.List.Perm.Basic

/-!
The order of the definitions in a file. Names are looked for among all definitions and no two share
one, so the order decides on the order of what is linked and on nothing else.
-/

namespace GrpcMock

/-- A package that differs from another in the order of its messages and enums only, and in which
each full name has the same schema. -/
structure Package.Reorders (other package : Package) : Prop where
  name : other.name = package.name
  goPackage : other.goPackage = package.goPackage
  messages : other.messages.Perm package.messages
  enums : other.enums.Perm package.enums
  services : other.services = package.services
  messageNamed
    : ∀ fullName,
        other.messages.find? (·.fullName == fullName)
        = package.messages.find? (·.fullName == fullName)
  enumNamed
    : ∀ fullName,
        other.enums.find? (·.fullName == fullName) = package.enums.find? (·.fullName == fullName)

namespace Proto.File

variable {file other : File}

/-- A file that differs from another in the order of its definitions only. -/
structure Reorders (other file : File) : Prop where
  dialect : other.dialect = file.dialect
  package : other.package = file.package
  goPackage : other.goPackage = file.goPackage
  services : other.services = file.services
  definitions : other.definitions.Perm file.definitions

-----------------------------------------------------------------------------------------
-- Names
-----------------------------------------------------------------------------------------

/-- Names that are distinct are so in every order. -/
theorem Reorders.distinct (h : other.Reorders file) (names : file.Distinct) : other.Distinct :=
  (h.definitions.map _).nodup_iff.mpr names

/-- So a full name is found as the same definition. -/
theorem Reorders.definitionAt? (h : other.Reorders file) (names : file.Distinct)
    (fullName : String)
    : other.definitionAt? fullName = file.definitionAt? fullName := by
  have reversed : other.definitions.reverse.Perm file.definitions.reverse :=
    (List.reverse_perm _).trans (h.definitions.trans (List.reverse_perm _).symm)
  have distinct : (file.definitions.reverse.map (·.name)).Nodup :=
    ((List.reverse_perm _).map _).nodup_iff.mpr names
  have found (name : String) : other.definition? name = file.definition? name :=
    find?_eq_of_perm reversed distinct name
  simp only [File.definitionAt?, relative?, h.package, found]

/-- A search from a scope outwards ends at the same definition, by induction on the scopes. -/
theorem Reorders.searchOutwards (h : other.Reorders file) (names : file.Distinct) (name : String)
    (path : List String)
    : other.searchOutwards name path = file.searchOutwards name path := by
  induction path with
  | nil => exact h.definitionAt? names name
  | cons inner outer ih =>
      rw [File.searchOutwards, File.searchOutwards, h.definitionAt? names, ih]

/-- A name means the same in whatever order the definitions are. -/
theorem Reorders.resolve (h : other.Reorders file) (names : file.Distinct)
    : other.resolve = file.resolve := by
  funext scope name
  simp only [File.resolve, scopeParts, h.package, h.definitionAt? names, h.searchOutwards names]

/-- The type of a method is the same message. -/
theorem Reorders.resolveMessage? (h : other.Reorders file) (names : file.Distinct) (name : String)
    : other.resolveMessage? name = file.resolveMessage? name := by
  rw [File.resolveMessage?, File.resolveMessage?, h.resolve names]

-----------------------------------------------------------------------------------------
-- Rules
-----------------------------------------------------------------------------------------

/-- The rules say nothing of the order. -/
theorem Reorders.keepsRules (h : other.Reorders file) (keeps : file.KeepsRules)
    : other.KeepsRules := by
  have resolve := h.resolve keeps.names
  refine ⟨h.distinct keeps.names, ?_, ?_, h.services ▸ keeps.serviceNames, ?_⟩
  · intro enum member kind
    have allowed := keeps.enums enum (h.definitions.mem_iff.mp member) kind
    exact ⟨allowed.filled, allowed.names, h.dialect ▸ allowed.zeroFirst⟩
  · intro message member kind
    have allowed := keeps.messages message (h.definitions.mem_iff.mp member) kind
    refine ⟨allowed.names, allowed.numbers, fun field inside => ?_⟩
    obtain ⟨number, group, types⟩ := allowed.fields field inside
    refine ⟨number, h.dialect ▸ group, fun type same => ?_⟩
    obtain ⟨target, resolved, mapKey, entry⟩ := types type same
    exact ⟨target, resolve ▸ resolved, mapKey, entry⟩
  · intro service member
    obtain ⟨name, methods, typed⟩ := keeps.services service (h.services ▸ member)
    refine ⟨fun taken => name ((h.definitions.map _).mem_iff.mp taken), methods, ?_⟩
    intro method inside
    simpa only [MethodTyped, h.resolveMessage? keeps.names] using typed method inside

/-- There are no cycles in any order. -/
theorem Reorders.acyclic (h : other.Reorders file) (names : file.Distinct)
    (acyclic : file.Acyclic)
    : other.Acyclic := by
  have edges : other.Refers = file.Refers := by
    funext source target
    rw [Refers, Refers, h.resolve names]
  intro message member kind
  rw [edges]
  exact acyclic message (h.definitions.mem_iff.mp member) kind

/-- A file is still accepted when its definitions are put into another order. -/
theorem Reorders.check (h : other.Reorders file) (accepted : file.check = .ok ())
    : other.check = .ok () := by
  obtain ⟨declared, nested⟩ := check_bind_eq_ok.mp accepted
  have keeps := checkDeclarations_eq_ok.mp declared
  have acyclic := h.acyclic keeps.names (checkNesting_eq_ok.mp nested)
  exact check_bind_eq_ok.mpr
    ⟨checkDeclarations_eq_ok.mpr (h.keepsRules keeps), checkNesting_eq_ok.mpr acyclic⟩

-----------------------------------------------------------------------------------------
-- Schemas
-----------------------------------------------------------------------------------------

/-- The package in Go is the same. -/
theorem Reorders.goPackageOf (h : other.Reorders file)
    : other.goPackageOf = file.goPackageOf := by
  rw [File.goPackageOf, File.goPackageOf, h.package, h.goPackage]

/-- So is the schema of every enum. -/
theorem Reorders.enumSchema (h : other.Reorders file) (enum : Definition)
    : other.enumSchema enum = file.enumSchema enum := by
  simp only [File.enumSchema, goIdent, h.goPackageOf, h.package]

/-- So is that of a message, given the schemas of its fields. -/
theorem Reorders.messageSchema (h : other.Reorders file) (message : Definition)
    (fields : List FieldSchema)
    : other.messageSchema message fields = file.messageSchema message fields := by
  simp only [File.messageSchema, goIdent, h.goPackageOf, h.package]

/-- A label has the same effect. -/
theorem Reorders.labelled (h : other.Reorders file) (inMapEntry : Bool) (label : Label)
    (schema : FieldSchema)
    : other.labelled inMapEntry label schema = file.labelled inMapEntry label schema := by
  have unset : other.canBeUnset label = file.canBeUnset label := by
    cases label <;> simp only [canBeUnset, h.dialect]
  simp only [File.labelled, unset]

mutual
/-- A message keeps its schema, by induction on what it is made of. -/
theorem Reorders.describes (h : other.Reorders file) (names : file.Distinct) {message : Definition}
    {schema : MessageSchema}
    : file.Describes message schema → other.Describes message schema
  | .message fields => h.messageSchema message _ ▸ .message (h.describesFields names fields)

/-- So do its fields, one by one. -/
theorem Reorders.describesFields (h : other.Reorders file) (names : file.Distinct)
    {message : Definition} {fields : List Field} {schemas : List FieldSchema}
    : file.DescribesFields message fields schemas → other.DescribesFields message fields schemas
  | .nil => .nil
  | .cons first rest =>
      h.labelled message.isMapEntry _ _
        ▸ .cons (h.describesType names first) (h.describesFields names rest)

/-- So does the type of a field, in each of the three ways. -/
theorem Reorders.describesType (h : other.Reorders file) (names : file.Distinct)
    {message : Definition} {field : Field} {schema : FieldSchema}
    : file.DescribesType message field schema → other.DescribesType message field schema
  | .scalar resolved => .scalar (h.resolve names ▸ resolved)
  | .enum resolved kind => h.enumSchema _ ▸ .enum (h.resolve names ▸ resolved) kind
  | .message resolved kind described =>
      .message (h.resolve names ▸ resolved) kind (h.describes names described)
end

/-- A service has the same schema, method by method. -/
theorem Reorders.describesService (h : other.Reorders file) (names : file.Distinct)
    {service : Service} {schema : ServiceSchema} (described : file.DescribesService service schema)
    : other.DescribesService service schema := by
  have message {name : String} {schema : MessageSchema}
      : file.DescribesName name schema → other.DescribesName name schema := by
    intro ⟨message, resolved, described⟩
    exact ⟨message, (h.resolveMessage? names name).trans resolved, h.describes names described⟩
  refine ⟨described.name, h.package ▸ described.fullName, described.goName, ?_⟩
  refine described.methods.imp fun method schema ⟨name, goName, input, output⟩ => ?_
  exact ⟨name, goName, message input, message output⟩

/-- What a file declares is declared in another order when its definitions are put into another
order. -/
theorem Reorders.declares {package : Package} (h : other.Reorders file) (allowed : file.Allowed)
    (declares : file.Declares package)
    : ∃ reordered, other.Declares reordered ∧ reordered.Reorders package := by
  have names := allowed.names
  obtain ⟨messages, described, sameMessages⟩ :=
    List.perm_comp_forall₂ (h.definitions.filter _) declares.messages
  have sameEnums : (other.enums.map other.enumSchema).Perm package.enums := by
    rw [declares.enums, funext h.enumSchema]
    exact (h.definitions.filter _).map _
  have distinct := List.nodup_append.mp (declares.fullNames allowed)
  refine
    ⟨⟨file.package, file.goPackageOf, messages, other.enums.map other.enumSchema,
        package.services⟩, ?_, ?_⟩
  · refine ⟨h.package.symm, h.goPackageOf.symm, ?_, rfl, ?_⟩
    · exact described.imp fun _ _ => h.describes names
    · rw [h.services]
      exact declares.services.imp fun _ _ => h.describesService names
  · exact
      ⟨declares.name.symm, declares.goPackage.symm, sameMessages, sameEnums, rfl,
        find?_eq_of_perm sameMessages distinct.1, find?_eq_of_perm sameEnums distinct.2.1⟩

-----------------------------------------------------------------------------------------
-- Files that are accepted
-----------------------------------------------------------------------------------------

/-- Linking an accepted file gives each definition the schema that it has by itself, whatever was
linked before, and it succeeds if all fields have types. The file with its definitions in any other
order is accepted too, and linked to the same schemas and services. -/
theorem definition_order_irrelevant (accepted : file.check = .ok ())
    : (∀ package, file.link = .ok package ↔ file.Declares package)
      ∧ (file.Typed → ∃ package, file.link = .ok package)
      ∧ ∀ other : File,
          other.Reorders file
          → other.check = .ok ()
            ∧ ∀ package,
                file.link = .ok package
                → ∃ reordered, other.link = .ok reordered ∧ reordered.Reorders package := by
  have allowed : file.Allowed := .of_check (check_bind_eq_ok.mp accepted).1
  refine ⟨fun _ => link_eq_ok allowed.names, fun typed => ?_, fun other reorders => ?_⟩
  · obtain ⟨package, declares⟩ := exists_declares allowed typed (grounded_of_check accepted)
    exact ⟨package, (link_eq_ok allowed.names).mpr declares⟩
  · refine ⟨reorders.check accepted, fun package linked => ?_⟩
    obtain ⟨reordered, declares, same⟩ :=
      reorders.declares allowed ((link_eq_ok allowed.names).mp linked)
    exact ⟨reordered, (link_eq_ok (reorders.distinct allowed.names)).mpr declares, same⟩

/-- The entries of the map come first, so they are linked before the message that has the map. -/
theorem definition_order_irrelevant_parcels
    : parcels.check = .ok ()
      ∧ parcels.Typed
      ∧ ∃ package reordered : Package,
          parcels.link = .ok package
          ∧ parcels.Declares package
          ∧ ({ parcels with definitions := parcels.definitions.reverse } : File).link
            = .ok reordered
          ∧ reordered.Reorders package := by
  have accepted : parcels.check = .ok () := toOption_eq_some.mp (by decide +kernel)
  have typed : parcels.Typed := by
    simp [Typed, parcels]
  obtain ⟨plain, links, order⟩ := definition_order_irrelevant accepted
  obtain ⟨package, linked⟩ := links typed
  obtain ⟨_, carried⟩ := order { parcels with definitions := parcels.definitions.reverse }
    ⟨rfl, rfl, rfl, rfl, List.reverse_perm _⟩
  obtain ⟨reordered, linkedToo, same⟩ := carried package linked
  exact ⟨accepted, typed, package, reordered, linked, (plain package).mp linked, linkedToo, same⟩

end Proto.File

end GrpcMock
