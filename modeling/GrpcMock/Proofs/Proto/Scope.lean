import GrpcMock.Proofs.Lists
import GrpcMock.Proofs.Proto.Names
import GrpcMock.Proofs.Proto.References
import GrpcMock.Proofs.Proto.Rules
import GrpcMock.Schema.Package
import Mathlib.Data.List.Induction

/-!
Where a name is found that is looked for from inside a message. A definition in a scope around the
message comes before one at the root, even where the name is meant from the root.
-/

namespace GrpcMock.Proto

open GrpcMock.Text (split)

/-- A scope is another scope or around it. -/
def Encloses (outer scope : String) : Prop :=
  scope = outer ∨ ∃ inner, scope = outer ++ "." ++ inner

/-- What encloses a path is a front part of it. -/
theorem Encloses.front {outer scope : String} (h : Encloses outer scope)
    : ∃ back, split '.' scope = split '.' outer ++ back := by
  rcases h with rfl | ⟨inner, rfl⟩
  · exact ⟨[], by simp⟩
  · exact ⟨split '.' inner, Text.split_append outer inner⟩

namespace File

variable {file : File}

-----------------------------------------------------------------------------------------
-- Names in the package
-----------------------------------------------------------------------------------------

/-- The scopes of the package itself, from the root of all packages inwards. -/
def root (file : File) : List String :=
  (file.package.map (split '.')).getD []

/-- A file has no package, or one with a name. -/
def Rooted (file : File) : Prop :=
  ∀ package, file.package = some package → package ≠ ""

/-- If a file that is read has a package, its name is not empty. -/
theorem Written.rooted (h : file.Written) : file.Rooted := by
  rintro package same rfl
  have refused : isTypeName "" = false := by decide +kernel
  exact Bool.false_ne_true (refused.symm.trans (h.package "" same))

/-- The full name of something is its own in the package. -/
theorem relative?_qualify (name : String)
    : file.relative? (Package.qualify file.package name) = some name := by
  unfold relative? Package.qualify
  cases file.package with
  | none => rfl
  | some package => exact Text.stripStart?_append (package ++ ".") name

/-- A full name in the package belongs to the definition of the name in it. -/
theorem definitionAt?_qualify (name : String)
    : file.definitionAt? (Package.qualify file.package name) = file.definition? name := by
  rw [definitionAt?, relative?_qualify]
  rfl

/-- A definition is found by its name, if that is its own. -/
theorem Distinct.definition? {found : Definition} (h : file.Distinct)
    (member : found ∈ file.definitions)
    : file.definition? found.name = some found := by
  have reversed : (file.definitions.reverse.map (·.name)).Nodup := by
    rw [List.map_reverse]
    exact List.nodup_reverse.mpr h
  exact (find?_eq_some_of_nodup reversed).mpr ⟨List.mem_reverse.mpr member, rfl⟩

/-- The parts of a scope are those of the package and those of its name. -/
theorem scopeParts_eq {scope : String} (parts : ∀ part ∈ split '.' scope, part ≠ "")
    : file.scopeParts scope = file.root ++ split '.' scope := by
  have whole : (split '.' scope).filter (!·.isEmpty) = split '.' scope := by
    refine List.filter_eq_self.mpr fun part member => ?_
    simpa using parts part member
  rw [scopeParts, whole]
  rfl

/-- A name in a scope that is not empty stands behind a dot. -/
theorem nameUnder_of_ne_empty {path : List String} (h : ".".intercalate path ≠ "") (name : String)
    : nameUnder path name = ".".intercalate path ++ "." ++ name := by
  have filled : ¬(".".intercalate path).isEmpty := fun empty => h (String.isEmpty_iff.mp empty)
  simp only [nameUnder, if_neg filled]

/-- Parts that are not empty make a name that is not empty. -/
theorem intercalate_ne_empty {path : List String} (filled : path ≠ [])
    (parts : ∀ part ∈ path, part ≠ "")
    : ".".intercalate path ≠ "" := by
  intro empty
  rcases Text.intercalate_eq_empty.mp empty with rfl | rfl
  · exact filled rfl
  · exact parts "" (List.mem_singleton_self _) rfl

/-- A name in a scope of the package. -/
theorem nameUnder_append {path : List String} (filled : path ≠ [])
    (parts : ∀ part ∈ path, part ≠ "") (name : String)
    : nameUnder (file.root ++ path) name
      = Package.qualify file.package (".".intercalate path ++ "." ++ name) := by
  unfold root Package.qualify
  cases same : file.package with
  | none => exact nameUnder_of_ne_empty (intercalate_ne_empty filled parts) name
  | some package =>
      have joined
          : ".".intercalate (split '.' package ++ path)
            = package ++ "." ++ ".".intercalate path := by
        rw [String.intercalate_append_of_ne_nil (Text.split_ne_nil _ _) filled,
          Text.intercalate_split]
      have nonempty : ".".intercalate (split '.' package ++ path) ≠ "" := by
        rw [joined]
        simp
      rw [Option.map_some, Option.getD_some, nameUnder_of_ne_empty nonempty, joined]
      simp only [String.append_assoc]

/-- A name at the root of the package. -/
theorem searchOutwards_root {name : String} {found : Definition} (h : file.Rooted)
    (here : file.definition? name = some found)
    : file.searchOutwards name file.root.reverse = some found := by
  rw [← definitionAt?_qualify] at here
  unfold root
  cases same : file.package with
  | none =>
      rw [same] at here
      exact here
  | some package =>
      rw [same] at here
      have nonempty : ".".intercalate (split '.' package) ≠ "" := by
        rw [Text.intercalate_split]
        exact h package same
      have qualified : nameUnder (split '.' package) name = package ++ "." ++ name := by
        rw [nameUnder_of_ne_empty nonempty, Text.intercalate_split]
      rw [Option.map_some, Option.getD_some]
      cases reversed : (split '.' package).reverse with
      | nil => exact absurd (List.reverse_eq_nil_iff.mp reversed) (Text.split_ne_nil _ _)
      | cons inner outer =>
          rw [searchOutwards, ← reversed, List.reverse_reverse, qualified]
          simp only [Package.qualify] at here
          rw [here]

-----------------------------------------------------------------------------------------
-- The search
-----------------------------------------------------------------------------------------

/-- The search stops at the innermost scope that has the name, or it gets to the scopes further out,
by induction on the scopes from within. -/
theorem searchOutwards_cases (file : File) (name : String) (outermost path : List String)
    : (∃ front back found,
        path = front ++ back
        ∧ front ≠ []
        ∧ file.definitionAt? (nameUnder (outermost ++ front) name) = some found
        ∧ file.searchOutwards name (outermost ++ path).reverse = some found)
      ∨ (∀ front back,
          path = front ++ back
          → front ≠ []
          → file.definitionAt? (nameUnder (outermost ++ front) name) = none)
        ∧ file.searchOutwards name (outermost ++ path).reverse
          = file.searchOutwards name outermost.reverse := by
  induction path using List.reverseRecOn with
  | nil =>
      refine .inr ⟨fun front back split filled => ?_, by simp⟩
      exact absurd (List.append_eq_nil_iff.mp split.symm).1 filled
  | append_singleton path last ih =>
      have innermost
          : (outermost ++ (path ++ [last])).reverse = last :: (outermost ++ path).reverse := by
        simp
      have whole
          : (last :: (outermost ++ path).reverse).reverse = outermost ++ (path ++ [last]) := by
        simp
      rw [innermost, searchOutwards, whole]
      cases here : file.definitionAt? (nameUnder (outermost ++ (path ++ [last])) name) with
      | some found => exact .inl ⟨path ++ [last], [], found, by simp, by simp, here, rfl⟩
      | none =>
          rcases ih with ⟨front, back, found, split, filled, search, result⟩ | ⟨missed, result⟩
          · exact .inl ⟨front, back ++ [last], found, by simp [split], filled, search, result⟩
          · refine .inr ⟨fun front back split filled => ?_, result⟩
            rcases List.eq_nil_or_concat back with rfl | ⟨back, other, rfl⟩
            · rw [List.append_nil] at split
              rw [← split]
              exact here
            · rw [List.concat_eq_append, ← List.append_assoc] at split
              exact missed front back (List.append_inj' split rfl).1 filled

/-- A scope that holds nothing adds nothing to the search from the scope around it. -/
theorem resolve_inner {scope last name : String} (path : ScopeName scope)
    (dotless : '.' ∉ last.toList) (filled : last ≠ "")
    (empty
      : ∀ found ∈ file.definitions,
        ∀ rest, found.name ≠ scope ++ "." ++ last ++ "." ++ rest)
    : file.resolve (scope ++ "." ++ last) name = file.resolve scope name := by
  have pieces : split '.' (scope ++ "." ++ last) = split '.' scope ++ [last] := by
    rw [Text.split_append, Text.split_dotless dotless]
  have parts : ∀ part ∈ split '.' (scope ++ "." ++ last), part ≠ "" := by
    rw [pieces]
    intro part member
    rcases List.mem_append.mp member with outer | inner
    · exact path.parts part outer
    · exact List.mem_singleton.mp inner ▸ filled
  have missed
      : file.definitionAt? (nameUnder (file.root ++ split '.' (scope ++ "." ++ last)) name)
        = none := by
    rw [nameUnder_append (Text.split_ne_nil _ _) parts, Text.intercalate_split,
      definitionAt?_qualify]
    refine List.find?_eq_none.mpr fun found member => ?_
    simpa using empty found (List.mem_reverse.mp member) name
  have search
      : file.searchOutwards name (file.scopeParts (scope ++ "." ++ last)).reverse
        = file.searchOutwards name (file.scopeParts scope).reverse := by
    rw [scopeParts_eq parts, scopeParts_eq path.parts]
    rw [pieces] at missed ⊢
    rw [← List.append_assoc, List.reverse_append, List.reverse_singleton, List.singleton_append,
      searchOutwards, List.reverse_cons, List.reverse_reverse, List.append_assoc, missed]
  rw [resolve, resolve, search]

-----------------------------------------------------------------------------------------
-- Shadowing
-----------------------------------------------------------------------------------------

/-- A definition has a name, as it is in a scope or in one around it. -/
def Shadows (file : File) (scope name : String) (found : Definition) : Prop :=
  found ∈ file.definitions
  ∧ ∃ outer, Encloses outer scope ∧ found.name = outer ++ "." ++ name

/-- A front part of a path encloses it. -/
theorem encloses_front {scope : String} {front back : List String} (filled : front ≠ [])
    (broken : split '.' scope = front ++ back)
    : Encloses (".".intercalate front) scope := by
  have whole := Text.intercalate_split scope
  rw [broken] at whole
  cases back with
  | nil =>
      rw [List.append_nil] at whole
      exact .inl whole.symm
  | cons first rest =>
      rw [String.intercalate_append_of_ne_nil filled (List.cons_ne_nil _ _)] at whole
      exact .inr ⟨_, whole.symm⟩

/-- From a scope that is named by a path, a name that stands at the root is found there unless some
definition shadows it, and otherwise such a definition is found. -/
theorem searchOutwards_shadowed {scope name : String} {own : Definition} (rooted : file.Rooted)
    (path : ScopeName scope) (here : file.definition? name = some own)
    : (∃ found,
        file.Shadows scope name found
        ∧ file.searchOutwards name (file.scopeParts scope).reverse = some found)
      ∨ (∀ found, ¬file.Shadows scope name found)
        ∧ file.searchOutwards name (file.scopeParts scope).reverse = some own := by
  have within {front back : List String} (filled : front ≠ [])
      (broken : split '.' scope = front ++ back)
      : file.definitionAt? (nameUnder (file.root ++ front) name)
        = file.definition? (".".intercalate front ++ "." ++ name) := by
    have parts : ∀ part ∈ front, part ≠ "" := fun part member =>
      path.parts part (broken ▸ List.mem_append_left _ member)
    rw [nameUnder_append filled parts, definitionAt?_qualify]
  rw [scopeParts_eq path.parts]
  rcases file.searchOutwards_cases name file.root (split '.' scope) with
    ⟨front, back, found, broken, filled, hit, result⟩ | ⟨missed, result⟩
  · rw [within filled broken] at hit
    obtain ⟨member, named⟩ := definition?_eq_some hit
    exact .inl ⟨found, ⟨member, _, encloses_front filled broken, named⟩, result⟩
  · refine .inr ⟨?_, result.trans (searchOutwards_root rooted here)⟩
    rintro found ⟨member, outer, encloses, named⟩
    obtain ⟨back, broken⟩ := encloses.front
    have filled := Text.split_ne_nil '.' outer
    have none := missed _ back broken filled
    rw [within filled broken, Text.intercalate_split] at none
    have absent := List.find?_eq_none.mp none found (List.mem_reverse.mpr member)
    simp [named] at absent

end File

end GrpcMock.Proto
