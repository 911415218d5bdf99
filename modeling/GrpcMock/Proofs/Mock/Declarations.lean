import GrpcMock.Proofs.Mock.Headings
import GrpcMock.Proofs.Mock.Sound
import GrpcMock.Proofs.Proto.Services
import Mathlib.Data.List.ReduceOption

/-!
What a file with mocks declares. The keys of a contract are distinct, but two of them can name one
service, and two names can be one in Go; the file declares nothing twice just if neither happens.
-/

namespace GrpcMock

namespace Contract

/-- The names under which a contract has services. -/
def names (contract : Contract) : List String :=
  contract.services.map Prod.fst

/-- A contract has cases for a service, under one of its names. -/
def Mocks (contract : Contract) (service : ServiceSchema) : Prop :=
  ∃ name ∈ contract.names, Package.Names name service

/-- No service is in a contract under two names, and neither two services nor two methods of one
service have the same name in Go. -/
structure NamesApart (contract : Contract) (package : Package) : Prop where
  once
    : ∀ service ∈ package.services,
        service.name ∈ contract.names
        → service.fullName ∈ contract.names
        → service.name = service.fullName
  services
    : ∀ left ∈ package.services,
      ∀ right ∈ package.services,
        contract.Mocks left
        → contract.Mocks right
        → Naming.goCamelCase left.name = Naming.goCamelCase right.name
        → left = right
  methods
    : ∀ entry ∈ contract.services,
      ∀ left ∈ entry.2.map Prod.fst,
      ∀ right ∈ entry.2.map Prod.fst,
        Naming.goCamelCase left = Naming.goCamelCase right → left = right

end Contract

namespace Mock

open GrpcMock.Text (lines)

/-- All that the lines of a Go file declare. -/
def declarations (text : String) : List Declaration :=
  (lines text).filterMap declaration?

-----------------------------------------------------------------------------------------
-- What is declared
-----------------------------------------------------------------------------------------

/-- What is declared for a service of a contract: a type, and its methods. -/
def declared (config : Config) (package : Package) (entry : String × List (String × Cases))
    : List Declaration :=
  match package.service? entry.1 with
  | none => []
  | some service =>
      .type (stubName config service)
        :: entry.2.filterMap fun method =>
            (service.method? method.1).map fun schema =>
              .method (stubName config service) schema.goName

/-- What is there in the lists of all items is what is there in each. -/
theorem reduceOption_flatMap {α β : Type} (items : List α) (f : α → List (Option β))
    : (items.flatMap f).reduceOption = items.flatMap fun item => (f item).reduceOption :=
  List.filterMap_flatMap

/-- Cases declare nothing. -/
theorem reduceOption_cases (bare : List Bool) : (bare.flatMap caseHeadings).reduceOption = [] := by
  rw [reduceOption_flatMap]
  simp [caseHeadings]

/-- Of the lines of a method, the first one declares it, and no other declares anything. -/
theorem reduceOption_handler {config : Config} {service : ServiceSchema} {method : MethodSchema}
    {outline : List Bool × List Bool}
    : (handlerHeadings config service method outline).reduceOption
      = [.method (stubName config service) method.goName] := by
  simp only [handlerHeadings, List.reduceOption_cons_of_some, List.reduceOption_append,
    reduceOption_cases]
  rfl

/-- Handlers declare one method each, in the order of the contract. -/
theorem reduceOption_handlers {config : Config} {service : ServiceSchema}
    {methods : List (String × Cases)}
    : (handlersHeadings config service
          (methods.map fun (name, cases) => (name, cases.outline))).reduceOption
      = methods.filterMap fun method =>
          (service.method? method.1).map fun schema =>
            .method (stubName config service) schema.goName := by
  rw [handlersHeadings, List.flatMap_map, reduceOption_flatMap, List.filterMap_eq_flatMap_toList]
  refine congrArg (List.flatMap · methods) (funext fun method => ?_)
  dsimp only
  cases service.method? method.1 with
  | none => rfl
  | some schema => exact reduceOption_handler

/-- A file declares what is declared for each service of the contract. -/
theorem declarations_eq {schema text : String} {package : Package} {contract : Contract}
    {config : Config} (compiled : Proto.compile schema = .ok package)
    (made : generate package contract config = .ok text)
    : declarations text = contract.services.flatMap (declared config package) := by
  have front (packages : Nat) : (frontHeadings packages).reduceOption = [] := by
    unfold frontHeadings
    split <;> simp
  have each (services : List (String × List (String × Cases)))
      : (serversHeadings config package (Contract.outlineOf services)).reduceOption
        = services.flatMap (declared config package) := by
    rw [serversHeadings, Contract.outlineOf, List.flatMap_map, reduceOption_flatMap]
    refine congrArg (List.flatMap · services) (funext fun entry => ?_)
    simp only [declared]
    cases package.service? entry.1 with
    | none => rfl
    | some service =>
        dsimp only
        rw [List.reduceOption_append, reduceOption_handlers]
        rfl
  calc declarations text
    _ = (headings text).reduceOption := by
      rw [headings, List.reduceOption, List.filterMap_map]
      rfl
    _ = contract.services.flatMap (declared config package) := by
      rw [generate_headings compiled made, List.reduceOption_append, front, List.nil_append]
      exact each contract.services

-----------------------------------------------------------------------------------------
-- What is declared twice
-----------------------------------------------------------------------------------------

/-- The names of mocks differ just if those of their services do. -/
theorem stubName_inj {config : Config} {left right : ServiceSchema}
    : stubName config left = stubName config right ↔ left.goName = right.goName := by
  simp [stubName]

section Entries

variable {package : Package} {config : Config} {entry other : String × List (String × Cases)}
  {service left right : ServiceSchema}

/-- The methods of an entry of a contract are declared by their names in Go. -/
theorem declared_eq (h : package.ServicesNamed)
    (found : package.service? entry.1 = some service)
    (known : ∀ method ∈ entry.2, ∃ schema, service.method? method.1 = some schema)
    : declared config package entry
      = .type (stubName config service)
        :: (entry.2.map Prod.fst).map fun name =>
            .method (stubName config service) (Naming.goCamelCase name) := by
  have member := (Package.service?_mem found).1
  rw [declared, found, List.map_map, ← List.filterMap_eq_map]
  refine congrArg (List.cons _) (List.filterMap_congr fun method inside => ?_)
  obtain ⟨schema, search⟩ := known method inside
  obtain ⟨listed, named⟩ := ServiceSchema.method?_mem search
  rw [search, Option.map_some, h.methods service member schema listed, named]
  rfl

/-- For one entry, nothing is declared twice just if its methods have different names in Go. -/
theorem declared_nodup_iff (h : package.ServicesNamed)
    (found : package.service? entry.1 = some service)
    (known : ∀ method ∈ entry.2, ∃ schema, service.method? method.1 = some schema)
    (distinct : (entry.2.map Prod.fst).Nodup)
    : (declared config package entry).Nodup
      ↔ ∀ left ∈ entry.2.map Prod.fst,
        ∀ right ∈ entry.2.map Prod.fst,
          Naming.goCamelCase left = Naming.goCamelCase right → left = right := by
  rw [declared_eq h found known, List.nodup_cons, List.nodup_map_iff_inj_on distinct]
  simp only [Declaration.method.injEq, true_and]
  exact and_iff_right (by simp)

/-- Two entries declare something in common just if their mocks have one name. -/
theorem declared_disjoint_iff (h : package.ServicesNamed)
    (found : package.service? entry.1 = some left)
    (known : ∀ method ∈ entry.2, ∃ schema, left.method? method.1 = some schema)
    (foundToo : package.service? other.1 = some right)
    (knownToo : ∀ method ∈ other.2, ∃ schema, right.method? method.1 = some schema)
    : (declared config package entry).Disjoint (declared config package other)
      ↔ left.goName ≠ right.goName := by
  have names : stubName config left ≠ stubName config right ↔ left.goName ≠ right.goName :=
    not_congr stubName_inj
  rw [declared_eq h found known, declared_eq h foundToo knownToo, ← names]
  constructor
  · intro apart same
    exact apart (List.mem_cons_self ..) (same ▸ List.mem_cons_self ..)
  · intro differs declaration inside insideToo
    simp only [List.mem_cons, List.mem_map] at inside insideToo
    rcases inside with rfl | ⟨_, _, rfl⟩ <;> rcases insideToo with same | ⟨_, _, same⟩
    · exact differs (Declaration.type.inj same)
    · cases same
    · cases same
    · exact differs (Declaration.method.inj same).1.symm

end Entries

/-- Different keys of a contract stand for services with different names in Go. -/
def KeysApart (contract : Contract) (package : Package) : Prop :=
  ∀ name ∈ contract.names,
  ∀ other ∈ contract.names,
  ∀ left right,
    package.service? name = some left
    → package.service? other = some right
    → left.goName = right.goName
    → name = other

/-- Keys are apart just if no service has two of them, and no two services that have keys are named
alike in Go. -/
theorem keysApart_iff {package : Package} (h : package.ServicesNamed) {contract : Contract}
    : KeysApart contract package
      ↔ (∀ service ∈ package.services,
          service.name ∈ contract.names
          → service.fullName ∈ contract.names
          → service.name = service.fullName)
        ∧ ∀ left ∈ package.services,
          ∀ right ∈ package.services,
            contract.Mocks left
            → contract.Mocks right
            → Naming.goCamelCase left.name = Naming.goCamelCase right.name
            → left = right := by
  constructor
  · intro apart
    refine ⟨fun service member name fullName => ?_, ?_⟩
    · have found := h.service?_eq_some.mpr ⟨member, .inl rfl⟩
      have foundToo := h.service?_eq_some.mpr ⟨member, .inr rfl⟩
      exact apart _ name _ fullName service service found foundToo rfl
    · intro left member right memberToo ⟨name, key, named⟩ ⟨other, keyToo, namedToo⟩ same
      rw [← h.goName left member, ← h.goName right memberToo] at same
      have found := h.service?_eq_some.mpr ⟨member, named⟩
      have foundToo := h.service?_eq_some.mpr ⟨memberToo, namedToo⟩
      have one := apart name key other keyToo left right found foundToo same
      exact h.eq_of_names member memberToo named (one ▸ namedToo)
  · intro ⟨once, services⟩ name key other keyToo left right found foundToo same
    obtain ⟨member, named⟩ := Package.service?_mem found
    obtain ⟨memberToo, namedToo⟩ := Package.service?_mem foundToo
    rw [h.goName left member, h.goName right memberToo] at same
    obtain rfl :=
      services left member right memberToo ⟨name, key, named⟩ ⟨other, keyToo, namedToo⟩ same
    rcases named with rfl | rfl <;> rcases namedToo with rfl | rfl
    · rfl
    · exact once left member key keyToo
    · exact (once left member keyToo key).symm
    · rfl

/-- Everything that is mentioned in a contract is found where mocks are made for it. -/
theorem sound_of_generate {text : String} {package : Package} {contract : Contract}
    {config : Config} (made : generate package contract config = .ok text)
    : Sound package contract config := by
  have passed : forM (checks package contract config) Check.outcome = .ok () :=
    (verdict_generate package contract config).symm.trans (verdict_eq_ok.mpr ⟨text, made⟩)
  exact passes_checks.mp fun check member =>
    Check.outcome_eq_ok.mp (forM_eq_ok.mp passed check member)

section Files

variable {package : Package} (h : package.ServicesNamed) {contract : Contract} {config : Config}
  (sound : Sound package contract config)

include sound

/-- What an entry of a sound contract stands for in the schema. -/
theorem found_of_sound {entry : String × List (String × Cases)}
    (member : entry ∈ contract.services)
    : ∃ service,
        package.service? entry.1 = some service
        ∧ ∀ method ∈ entry.2, ∃ schema, service.method? method.1 = some schema := by
  obtain ⟨service, found, methods⟩ := sound.services entry member
  refine ⟨service, found, fun method inside => ?_⟩
  obtain ⟨schema, search, _⟩ := methods method inside
  exact ⟨schema, search⟩

include h

/-- No two entries declare anything in common just if the keys are apart. -/
theorem declared_pairwise_iff (distinct : contract.names.Nodup)
    : contract.services.Pairwise (Function.onFun List.Disjoint (declared config package))
      ↔ KeysApart contract package := by
  rw [pairwise_disjoint_iff distinct.of_map]
  constructor
  · intro disjoint name key other keyToo left right found foundToo same
    obtain ⟨entry, member, rfl⟩ := List.mem_map.mp key
    obtain ⟨partner, memberToo, rfl⟩ := List.mem_map.mp keyToo
    obtain ⟨_, again, known⟩ := found_of_sound sound member
    cases found.symm.trans again
    obtain ⟨_, againToo, knownToo⟩ := found_of_sound sound memberToo
    cases foundToo.symm.trans againToo
    by_contra differs
    have apart := disjoint entry member partner memberToo fun one => differs (one ▸ rfl)
    exact (declared_disjoint_iff h found known foundToo knownToo).mp apart same
  · intro apart entry member other memberToo differs
    obtain ⟨left, found, known⟩ := found_of_sound sound member
    obtain ⟨right, foundToo, knownToo⟩ := found_of_sound sound memberToo
    refine (declared_disjoint_iff h found known foundToo knownToo).mpr fun same => differs ?_
    have one := apart entry.1 (List.mem_map_of_mem member) other.1 (List.mem_map_of_mem memberToo)
      left right found foundToo same
    exact List.inj_on_of_nodup_map distinct member memberToo one

end Files

/-- Mocks for a contract declare nothing twice just if the names in it are apart. So for a service
that stands in it under its name and under its full name, one type is declared twice. -/
theorem declarations_nodup_iff {schema text : String} {package : Package} {contract : Contract}
    {config : Config} (compiled : Proto.compile schema = .ok package)
    (ordered : Contract.Ordered contract.services)
    (made : generate package contract config = .ok text)
    : (declarations text).Nodup ↔ contract.NamesApart package := by
  have named := Proto.compile_servicesNamed compiled
  have sound := sound_of_generate made
  have each
      : (∀ entry ∈ contract.services, (declared config package entry).Nodup)
        ↔ ∀ entry ∈ contract.services,
          ∀ left ∈ entry.2.map Prod.fst,
          ∀ right ∈ entry.2.map Prod.fst,
            Naming.goCamelCase left = Naming.goCamelCase right → left = right := by
    refine forall₂_congr fun entry member => ?_
    obtain ⟨service, found, known⟩ := found_of_sound sound member
    exact declared_nodup_iff named found known (ordered.2 entry member).nodup
  rw [declarations_eq compiled made, List.nodup_flatMap, each,
    declared_pairwise_iff named sound ordered.1.nodup, keysApart_iff named]
  constructor
  · intro ⟨methods, once, services⟩
    exact ⟨once, services, methods⟩
  · intro apart
    exact ⟨apart.methods, apart.once, apart.services⟩

def shopSchemaText : String :=
  "package shop; message Letter \x7b string text = 1; \x7d "
    ++ "service Post \x7b rpc Send (Letter) returns (Letter); \x7d"

def shopMessage : MessageSchema :=
  {
    fullName := "shop.Letter",
    ident := ⟨"Letter", "shop"⟩,
    fields := [{ FieldSchema.single "text" 1 .string with hasPresence := true }],
    isMapEntry := false
  }

def shopPackage : Package :=
  {
    name := some "shop",
    goPackage := ⟨"shop", "shop"⟩,
    messages := [shopMessage],
    enums := [],
    services := [⟨"Post", "shop.Post", "Post", [⟨"Send", "Send", shopMessage, shopMessage⟩]⟩]
  }

/-- One service of a contract under both of its names. -/
def shopContract : Contract :=
  { name := "letters", services := [("Post", [("Send", ⟨[], []⟩)]), ("shop.Post", [])] }

/-- The shop calls its service by two names, and its type is declared twice. -/
theorem declarations_nodup_iff_shop
    : Proto.compile shopSchemaText = .ok shopPackage
      ∧ Contract.Ordered shopContract.services
      ∧ ∃ text,
          generate shopPackage shopContract Config.standard = .ok text
          ∧ ¬(declarations text).Nodup := by
  have compiled : Proto.compile shopSchemaText = .ok shopPackage :=
    toOption_eq_some.mp (by decide +kernel)
  have ordered : Contract.Ordered shopContract.services := by
    refine ⟨List.pairwise_pair.mpr (by decide), ?_⟩
    simp [Sorted.Ascending, shopContract]
  have some : (generate shopPackage shopContract Config.standard).toOption.isSome := by
    decide +kernel
  obtain ⟨text, made⟩ := Option.isSome_iff_exists.mp some
  have made := toOption_eq_some.mp made
  refine ⟨compiled, ordered, text, made, fun distinct => ?_⟩
  have apart := (declarations_nodup_iff compiled ordered made).mp distinct
  have same := apart.once _ (List.mem_singleton_self _) (by decide) (by decide)
  exact absurd same (by decide)

end Mock

end GrpcMock
