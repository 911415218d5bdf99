import GrpcMock.Proto.Nesting
import Mathlib.Logic.Relation

/-!
The reference graph of a schema file. Its edges are what the types of fields resolve to, and that is
always something which the file itself declares.
-/

namespace GrpcMock.Proto

open Relation (TransGen)

/-- A target is a message if it is a definition of that kind. -/
theorem Target.message?_eq_some {target : Target} {message : Definition}
    : target.message? = some message ↔ target = .definition message ∧ message.kind = .message := by
  cases target with
  | scalar kind => simp [Target.message?]
  | definition found =>
      simp only [Target.message?, Target.definition.injEq, Option.ite_none_right_eq_some,
        Option.some.injEq]
      constructor
      · rintro ⟨kind, rfl⟩
        exact ⟨rfl, kind⟩
      · rintro ⟨rfl, kind⟩
        exact ⟨kind, rfl⟩

/-- What a keyword stands for is scalar. -/
theorem isScalar_of_ofKeyword? {name : String} {kind : FieldKind}
    (h : FieldKind.ofKeyword? name = some kind)
    : kind.isScalar := by
  have both := List.find?_some h
  exact (Bool.and_eq_true_iff.mp both).1

/-- Where ways along a relation all come to an end, none of them is a cycle, by induction on these
ways. -/
theorem not_transGen_of_acc {α : Type} {edge : α → α → Prop} {node : α}
    (h : Acc (fun target source => edge source target) node)
    : ¬TransGen edge node node := by
  have ends : Acc (TransGen fun target source => edge source target) node := h.transGen
  intro cycle
  have back : TransGen (fun target source => edge source target) node node :=
    Relation.transGen_swap.mpr cycle
  induction ends with
  | intro node _ ih => exact ih node back h cycle back

namespace File

variable {file : File}

-----------------------------------------------------------------------------------------
-- Names resolve to what the file declares
-----------------------------------------------------------------------------------------

/-- What is found by a name is a definition of the file with that name. -/
theorem definition?_eq_some {name : String} {found : Definition}
    (h : file.definition? name = some found)
    : found ∈ file.definitions ∧ found.name = name := by
  have member := List.mem_of_find?_eq_some h
  have named := List.find?_some h
  exact ⟨List.mem_reverse.mp member, by simpa using named⟩

/-- What is found by a full name is a definition of the file. -/
theorem definitionAt?_mem {fullName : String} {found : Definition}
    (h : file.definitionAt? fullName = some found)
    : found ∈ file.definitions := by
  obtain ⟨name, -, hn⟩ := Option.bind_eq_some_iff.mp h
  exact (definition?_eq_some hn).1

/-- So is what is found from a scope outwards, by induction on the scopes. -/
theorem searchOutwards_mem {name : String} {path : List String} {found : Definition}
    (h : file.searchOutwards name path = some found)
    : found ∈ file.definitions := by
  induction path with
  | nil => exact definitionAt?_mem h
  | cons inner outer ih =>
      rw [searchOutwards] at h
      split at h
      · rename_i near
        exact definitionAt?_mem (near.trans h)
      · exact ih h

/-- What a name resolves to is declared in the file, from whatever scope it is looked for. -/
theorem resolve_mem {scope name : String} {found : Definition}
    (h : file.resolve scope name = some (.definition found))
    : found ∈ file.definitions := by
  unfold resolve at h
  split at h
  · cases h
  split at h
  · obtain ⟨target, search, same⟩ := Option.map_eq_some_iff.mp h
    cases same
    exact definitionAt?_mem search
  · obtain ⟨target, search, same⟩ := Option.map_eq_some_iff.mp h
    cases same
    exact searchOutwards_mem search

/-- A name that resolves to no definition is the keyword of a scalar kind. -/
theorem resolve_scalar {scope name : String} {kind : FieldKind}
    (h : file.resolve scope name = some (.scalar kind))
    : FieldKind.ofKeyword? name = some kind := by
  unfold resolve at h
  split at h
  · rename_i keyword
    cases h
    exact keyword
  · split at h <;> simp at h

-----------------------------------------------------------------------------------------
-- The graph
-----------------------------------------------------------------------------------------

/-- A definition refers to a message if the type of one of its fields resolves to the message, from
the scope of the definition. -/
def Refers (file : File) (source target : Definition) : Prop :=
  ∃ field ∈ source.fields,
    ∃ type,
      field.type = some type
      ∧ file.resolve source.name type = some (.definition target)
      ∧ target.kind = .message

/-- The references that the search for cycles follows are the edges of the graph. -/
theorem mem_references {source target : Definition}
    : target ∈ file.references source ↔ file.Refers source target := by
  simp only [references, List.mem_filterMap, Option.bind_eq_bind, Option.bind_eq_some_iff,
    Target.message?_eq_some]
  constructor
  · rintro ⟨field, member, type, typed, _, resolved, rfl, kind⟩
    exact ⟨field, member, type, typed, resolved, kind⟩
  · rintro ⟨field, member, type, typed, resolved, kind⟩
    exact ⟨field, member, type, typed, _, resolved, rfl, kind⟩

/-- What a message refers to is a definition of the file. -/
theorem Refers.mem {source target : Definition} (h : file.Refers source target)
    : target ∈ file.definitions := by
  obtain ⟨_, _, _, _, resolved, _⟩ := h
  exact resolve_mem resolved

/-- It is a message itself. -/
theorem Refers.message {source target : Definition} (h : file.Refers source target)
    : target.kind = .message := by
  obtain ⟨_, _, _, _, _, kind⟩ := h
  exact kind

/-- Following references from a message comes to an end, whatever way is taken. -/
def Grounded (file : File) (message : Definition) : Prop :=
  Acc (fun target source => file.Refers source target) message

/-- A grounded message lies on no cycle. -/
theorem Grounded.acyclic {message : Definition} (h : file.Grounded message)
    : ¬TransGen file.Refers message message :=
  not_transGen_of_acc h

end File

end GrpcMock.Proto
