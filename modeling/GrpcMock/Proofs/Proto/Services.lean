import GrpcMock.Proofs.Proto.GoNames

/-!
The services of a schema that compiles. Each has a name of its own, which holds no dot, so that a
text is the name or the full name of one service at most.
-/

namespace GrpcMock

/-- The services of a package are told apart by their names. -/
structure Package.ServicesNamed (package : Package) : Prop where
  names : (package.services.map (·.name)).Nodup
  dotless : ∀ service ∈ package.services, '.' ∉ service.name.toList
  fullName
    : ∀ service ∈ package.services, service.fullName = qualify package.name service.name
  goName : ∀ service ∈ package.services, service.goName = Naming.goCamelCase service.name
  methods
    : ∀ service ∈ package.services,
      ∀ method ∈ service.methods, method.goName = Naming.goCamelCase method.name

/-- A method that is found by a name is one of the service with that name. -/
theorem ServiceSchema.method?_mem {service : ServiceSchema} {name : String} {method : MethodSchema}
    (found : service.method? name = some method)
    : method ∈ service.methods ∧ method.name = name :=
  ⟨List.mem_of_find?_eq_some found, by simpa using List.find?_some found⟩

namespace Package

variable {package : Package} {service : ServiceSchema} {name : String}

/-- A text is the name of a service, or its full name. -/
def Names (name : String) (service : ServiceSchema) : Prop :=
  service.name = name ∨ service.fullName = name

/-- A service that is found by a name is one of the package that goes by it. -/
theorem service?_mem (found : package.service? name = some service)
    : service ∈ package.services ∧ Names name service :=
  ⟨List.mem_of_find?_eq_some found, by simpa [Names] using List.find?_some found⟩

namespace ServicesNamed

variable (h : package.ServicesNamed)

include h

/-- A full name that has no dot is the name. -/
theorem name_eq_of_fullName (member : service ∈ package.services) (same : service.fullName = name)
    (dotless : '.' ∉ name.toList)
    : service.name = name := by
  rw [h.fullName service member] at same
  unfold qualify at same
  split at same
  · rw [← same] at dotless
    simp at dotless
  · exact same

/-- No text names two services. -/
theorem eq_of_names {other : ServiceSchema} (member : service ∈ package.services)
    (memberToo : other ∈ package.services) (named : Names name service)
    (namedToo : Names name other)
    : service = other := by
  have same : service.name = other.name := by
    rcases named with rfl | rfl <;> rcases namedToo with again | again
    · exact again.symm
    · exact (h.name_eq_of_fullName memberToo again (h.dotless service member)).symm
    · exact h.name_eq_of_fullName member again.symm (h.dotless other memberToo)
    · rw [h.fullName service member, h.fullName other memberToo] at again
      exact (Proto.File.qualify_injective package.name again).symm
  exact List.inj_on_of_nodup_map h.names member memberToo same

/-- A service is found by either of its names. -/
theorem service?_eq_some
    : package.service? name = some service ↔ service ∈ package.services ∧ Names name service := by
  refine ⟨service?_mem, fun ⟨member, named⟩ => ?_⟩
  cases search : package.service? name with
  | none =>
      have missed := List.find?_eq_none.mp search service member
      exact absurd named (by simpa [Names] using missed)
  | some other =>
      obtain ⟨memberToo, namedToo⟩ := service?_mem search
      rw [h.eq_of_names member memberToo named namedToo]

end ServicesNamed

end Package

/-- The services of a text that compiles are told apart by their names. -/
theorem Proto.compile_servicesNamed {text : String} {package : Package}
    (compiled : compile text = .ok package)
    : package.ServicesNamed := by
  obtain ⟨file, read, checked, linked⟩ := compile_eq_ok.mp compiled
  have keeps := File.checkDeclarations_eq_ok.mp (check_bind_eq_ok.mp checked).1
  have declares := (File.link_eq_ok keeps.names).mp linked
  have identified := File.services_identified read
  refine ⟨?_, fun service member => ?_, fun service member => ?_, fun service member => ?_,
    fun service member method inside => ?_⟩
  · have names : file.services.map (·.name) = package.services.map (·.name) :=
      declares.services.map_eq fun _ _ described => described.name.symm
    exact names ▸ keeps.serviceNames
  · obtain ⟨declared, listed, described⟩ := declares.services.exists_left member
    exact described.name ▸ isIdentifier_dotless (identified declared listed).name
  · obtain ⟨declared, _, described⟩ := declares.services.exists_left member
    rw [described.fullName, described.name, declares.name]
  · obtain ⟨declared, _, described⟩ := declares.services.exists_left member
    rw [described.goName, described.name]
  · obtain ⟨declared, _, described⟩ := declares.services.exists_left member
    obtain ⟨rpc, _, offered⟩ := described.methods.exists_left inside
    rw [offered.goName, offered.name]

end GrpcMock
