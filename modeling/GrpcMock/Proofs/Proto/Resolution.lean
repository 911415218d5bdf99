import GrpcMock.Proofs.Proto.Scope

/-!
What a name refers to, said without a search. Among the scopes around a reference, the innermost one
that holds the name decides; a name that begins with a dot is a full name.
-/

namespace GrpcMock.Proto

open GrpcMock.Text (split stripStart?)

namespace File

variable {file : File} {name : String} {found : Definition}

/-- A name under a path is joined to it, unless all of the path is one empty part. -/
theorem nameUnder_eq {path : List String} (other : path ≠ [""]) (name : String)
    : nameUnder path name = ".".intercalate (path ++ [name]) := by
  by_cases filled : path = []
  · rw [filled]
    rfl
  · have joined : ".".intercalate path ≠ "" := fun empty =>
      (Text.intercalate_eq_empty.mp empty).elim filled other
    rw [nameUnder_of_ne_empty joined, String.intercalate_append_of_ne_nil filled (by simp),
      String.intercalate_singleton]

/-- A name in the package is what is left of a full name without the package. -/
theorem relative?_eq_some {fullName : String}
    : file.relative? fullName = some name ↔ Package.qualify file.package name = fullName := by
  constructor
  · intro h
    unfold relative? at h
    unfold Package.qualify
    cases same : file.package with
    | none =>
        rw [same] at h
        exact (Option.some.inj h).symm
    | some package =>
        rw [same] at h
        exact (Text.eq_append_of_stripStart? h).symm
  · rintro rfl
    exact relative?_qualify name

/-- Where definitions have different names, each is found by its full name alone. -/
theorem Distinct.definitionAt?_eq_some {fullName : String} (h : file.Distinct)
    : file.definitionAt? fullName = some found
      ↔ found ∈ file.definitions ∧ Package.qualify file.package found.name = fullName := by
  constructor
  · intro search
    obtain ⟨relative, stripped, here⟩ := Option.bind_eq_some_iff.mp search
    obtain ⟨member, rfl⟩ := definition?_eq_some here
    exact ⟨member, relative?_eq_some.mp stripped⟩
  · rintro ⟨member, rfl⟩
    rw [definitionAt?_qualify]
    exact h.definition? member

-----------------------------------------------------------------------------------------
-- The innermost scope
-----------------------------------------------------------------------------------------

/-- By its full name, a definition has a name in the scope that a path leads to. One empty part is
no scope. -/
def Holds (file : File) (path : List String) (name : String) (found : Definition) : Prop :=
  found ∈ file.definitions
  ∧ path ≠ [""]
  ∧ Package.qualify file.package found.name = ".".intercalate (path ++ [name])

/-- Of all scopes on the way to the end of a path, no one further in than that of a definition holds
the name. -/
def Nearest (file : File) (around : List String) (name : String) (found : Definition) : Prop :=
  ∃ path,
    path <+: around
    ∧ file.Holds path name found
    ∧ ∀ longer,
        longer <+: around → path.length < longer.length → ∀ other, ¬file.Holds longer name other

theorem Distinct.holds_iff {path : List String} (h : file.Distinct) (other : path ≠ [""])
    : file.Holds path name found ↔ file.definitionAt? (nameUnder path name) = some found := by
  rw [h.definitionAt?_eq_some, nameUnder_eq other, Holds, and_iff_right other]

theorem Distinct.holds_unique {path : List String} {other : Definition} (h : file.Distinct)
    (holds : file.Holds path name found) (holdsToo : file.Holds path name other)
    : found = other := by
  have here := (h.holds_iff holds.2.1).mp holds
  have hereToo := (h.holds_iff holdsToo.2.1).mp holdsToo
  exact Option.some.inj (here.symm.trans hereToo)

/-- At most one definition is nearest. -/
theorem Nearest.unique {around : List String} {other : Definition} (names : file.Distinct)
    (h : file.Nearest around name found) (ho : file.Nearest around name other)
    : found = other := by
  obtain ⟨path, inside, holds, innermost⟩ := h
  obtain ⟨pathToo, insideToo, holdsToo, innermostToo⟩ := ho
  rcases Nat.lt_trichotomy path.length pathToo.length with shorter | same | longer
  · exact absurd holdsToo (innermost _ insideToo shorter _)
  · have front := List.prefix_of_prefix_length_le inside insideToo (Nat.le_of_eq same)
    obtain rfl := front.eq_of_length same
    exact names.holds_unique holds holdsToo
  · exact absurd holds (innermostToo _ inside longer _)

/-- A scope that holds nothing of a name may be added to a path at its end. -/
theorem Nearest.concat {around : List String} {last : String}
    (h : file.Nearest around name found)
    (missed : ∀ other, ¬file.Holds (around ++ [last]) name other)
    : file.Nearest (around ++ [last]) name found := by
  obtain ⟨path, inside, holds, innermost⟩ := h
  refine ⟨path, inside.trans (List.prefix_append _ _), holds, fun longer within further => ?_⟩
  rcases List.prefix_concat_iff.mp within with rfl | within
  · exact missed
  · exact innermost longer within further

/-- One empty part is searched like the root. -/
theorem searchOutwards_empty (file : File) (name : String)
    : file.searchOutwards name [""] = file.searchOutwards name [] := by
  have under : nameUnder [""] name = name := rfl
  rw [searchOutwards, searchOutwards, List.reverse_singleton, under]
  cases here : file.definitionAt? name with
  | some found => rfl
  | none => exact here

/-- The search gives the nearest definition or, if no scope holds the name, none. By induction on
the path, the last part of which is searched first. -/
theorem searchOutwards_nearest (names : file.Distinct) (around : List String)
    : (∃ found,
        file.searchOutwards name around.reverse = some found ∧ file.Nearest around name found)
      ∨ file.searchOutwards name around.reverse = none
        ∧ ∀ path, path <+: around → ∀ found, ¬file.Holds path name found := by
  induction around using List.reverseRecOn with
  | nil =>
      have root (found : Definition)
          : file.Holds [] name found ↔ file.definitionAt? name = some found :=
        names.holds_iff (by simp)
      rw [List.reverse_nil, searchOutwards]
      cases here : file.definitionAt? name with
      | some found =>
          refine .inl ⟨found, rfl, [], List.prefix_rfl, (root found).mpr here, ?_⟩
          intro longer within further
          rw [List.prefix_nil.mp within] at further
          exact absurd further (Nat.lt_irrefl 0)
      | none =>
          refine .inr ⟨rfl, fun path within found holds => ?_⟩
          rw [List.prefix_nil.mp within, root, here] at holds
          cases holds
  | append_singleton around last ih =>
      have next
          (missed : ∀ other, ¬file.Holds (around ++ [last]) name other)
          : (∃ found,
              file.searchOutwards name around.reverse = some found
              ∧ file.Nearest (around ++ [last]) name found)
            ∨ file.searchOutwards name around.reverse = none
              ∧ ∀ path, path <+: around ++ [last] → ∀ found, ¬file.Holds path name found := by
        rcases ih with ⟨found, search, nearest⟩ | ⟨search, nothing⟩
        · exact .inl ⟨found, search, nearest.concat missed⟩
        · refine .inr ⟨search, fun path within => ?_⟩
          rcases List.prefix_concat_iff.mp within with rfl | within
          · exact missed
          · exact nothing path within
      by_cases empty : around ++ [last] = [""]
      · obtain ⟨rfl, rfl⟩ := List.append_singleton_inj.mp (empty.trans (List.nil_append _).symm)
        exact file.searchOutwards_empty name ▸ next fun other holds => holds.2.1 rfl
      · have innermost : (around ++ [last]).reverse = last :: around.reverse := by simp
        rw [innermost, searchOutwards, ← innermost, List.reverse_reverse]
        cases here : file.definitionAt? (nameUnder (around ++ [last]) name) with
        | some found =>
            have holds := (names.holds_iff empty).mpr here
            refine .inl ⟨found, rfl, _, List.prefix_rfl, holds, fun longer within further => ?_⟩
            exact absurd within.length_le (Nat.not_le.mpr further)
        | none =>
            refine next fun other holds => ?_
            rw [names.holds_iff empty, here] at holds
            cases holds

-----------------------------------------------------------------------------------------
-- Names from the root
-----------------------------------------------------------------------------------------

/-- The path around a scope whose parts are given. -/
theorem scopeParts_intercalate {inner : List String}
    (parts : ∀ part ∈ inner, part ≠ "" ∧ '.' ∉ part.toList)
    : file.scopeParts (".".intercalate inner) = file.root ++ inner := by
  by_cases filled : inner = []
  · rw [filled]
    rfl
  · have pieces := Text.split_intercalate filled fun part member => (parts part member).2
    rw [scopeParts_eq (fun part member => (parts part (pieces ▸ member)).1), pieces]

/-- A path begins with an empty part just if the package begins with a dot. -/
theorem empty_prefix_iff {inner : List String} (parts : ∀ part ∈ inner, part ≠ "")
    : [""] <+: file.root ++ inner
      ↔ ∃ package,
          file.package = some package ∧ (package = "" ∨ package.toList.head? = some '.') := by
  unfold root
  cases same : file.package with
  | none =>
      simp only [Option.map_none, Option.getD_none, List.nil_append]
      constructor
      · intro empty
        exact absurd rfl (parts "" (empty.subset (List.mem_singleton_self _)))
      · nofun
  | some package =>
      obtain ⟨first, rest, pieces⟩ := List.exists_cons_of_ne_nil (Text.split_ne_nil '.' package)
      have front
          : (split '.' package).head? = some "" ↔ package = "" ∨ package.toList.head? = some '.' :=
        Text.head?_split_eq_empty
      rw [pieces, List.head?_cons, Option.some_inj] at front
      simp only [Option.map_some, Option.getD_some, pieces, List.cons_append,
        List.cons_prefix_cons, List.nil_prefix, and_true, Option.some_inj, exists_eq_left', ← front]
      exact eq_comm

/-- A name that does not begin with a dot refers to what the innermost scope that holds it has under
it, and to nothing if no scope around the reference holds it. A name that does begin with one refers
to the definition whose full name follows. Only a package that begins with a dot has an empty part
in front, and that part alone is no scope, though the full names in the package begin with it. -/
theorem resolve_innermost (names : file.Distinct) {inner : List String}
    (parts : ∀ part ∈ inner, part ≠ "" ∧ '.' ∉ part.toList)
    (notScalar : ∀ kind : FieldKind, kind.isScalar → kind.keyword ≠ name)
    : (name.toList.head? ≠ some '.'
        → (∀ found,
            file.resolve (".".intercalate inner) name = some (.definition found)
            ↔ file.Nearest (file.root ++ inner) name found)
          ∧ (file.resolve (".".intercalate inner) name = none
            ↔ ∀ path, path <+: file.root ++ inner → ∀ found, ¬file.Holds path name found))
      ∧ (∀ rest, name = "." ++ rest
          → ∀ found,
              file.resolve (".".intercalate inner) name = some (.definition found)
              ↔ found ∈ file.definitions ∧ Package.qualify file.package found.name = rest)
      ∧ ([""] <+: file.root ++ inner
          ↔ ∃ package,
              file.package = some package
              ∧ (package = "" ∨ package.toList.head? = some '.')) := by
  have keyword : FieldKind.ofKeyword? name = none := by
    refine List.find?_eq_none.mpr fun kind _ both => ?_
    obtain ⟨scalar, same⟩ := Bool.and_eq_true_iff.mp both
    exact notScalar kind scalar (by simpa using same)
  refine ⟨fun inside => ?_, ?_, empty_prefix_iff fun part member => (parts part member).1⟩
  · have relative : stripStart? "." name = none := Text.stripStart?_eq_none rfl inside
    have search
        : file.resolve (".".intercalate inner) name
          = (file.searchOutwards name (file.root ++ inner).reverse).map .definition := by
      rw [resolve, keyword, relative, scopeParts_intercalate parts]
    rw [search]
    rcases file.searchOutwards_nearest names (file.root ++ inner) with
      ⟨other, here, nearest⟩ | ⟨missed, nothing⟩
    · rw [here]
      refine ⟨fun found => ?_, ?_⟩
      · simp only [Option.map_some, Option.some_inj, Target.definition.injEq]
        exact ⟨fun same => same ▸ nearest, fun nearestToo => nearest.unique names nearestToo⟩
      · obtain ⟨path, within, holds, -⟩ := nearest
        refine iff_of_false (Option.some_ne_none _) fun nothing => ?_
        exact nothing path within other holds
    · rw [missed]
      refine ⟨fun found => ?_, iff_of_true rfl nothing⟩
      refine iff_of_false (Option.some_ne_none _).symm ?_
      rintro ⟨path, within, holds, -⟩
      exact nothing path within found holds
  · rintro rest rfl found
    rw [resolve, keyword, Text.stripStart?_append]
    simp only [Option.map_eq_some_iff, Target.definition.injEq, exists_eq_right]
    exact names.definitionAt?_eq_some

def relayText : String :=
  "package .post; message Letter \x7b message Stamp \x7b \x7d \x7d message Stamp \x7b \x7d"

def relayFile : File :=
  { File.empty with
    package := some ".post",
    definitions :=
      [
        ⟨"Letter", ⟨1, 24⟩, .message, [], false⟩,
        ⟨"Letter.Stamp", ⟨1, 41⟩, .message, [], false⟩,
        ⟨"Stamp", ⟨1, 61⟩, .message, [], false⟩
      ] }

/-- From inside a letter, a stamp is the one that is nested there. The other stamp is not found by
the name of the package without the dot, although its full name has the empty part before that. -/
theorem resolve_innermost_relay
    : File.ofText relayText = .ok relayFile
      ∧ relayFile.Nearest (relayFile.root ++ ["Letter"]) "Stamp"
          ⟨"Letter.Stamp", ⟨1, 41⟩, .message, [], false⟩
      ∧ (∀ path, path <+: relayFile.root ++ ["Letter"]
          → ∀ found, ¬relayFile.Holds path "post.Stamp" found)
      ∧ [""] <+: relayFile.root ++ ["Letter"]
      ∧ Package.qualify relayFile.package "Stamp" = ".".intercalate ([""] ++ ["post.Stamp"]) := by
  have written : File.ofText relayText = .ok relayFile := toOption_eq_some.mp (by decide +kernel)
  have names : (relayFile.definitions.map (·.name)).Nodup := by decide
  have parts : ∀ part ∈ ["Letter"], part ≠ "" ∧ '.' ∉ part.toList := by decide
  have stamp : ∀ kind : FieldKind, kind.isScalar → kind.keyword ≠ "Stamp" := by
    intro kind _
    cases kind <;> decide
  have postStamp : ∀ kind : FieldKind, kind.isScalar → kind.keyword ≠ "post.Stamp" := by
    intro kind _
    cases kind <;> decide
  have here
      : relayFile.resolve (".".intercalate ["Letter"]) "Stamp"
        = some (.definition ⟨"Letter.Stamp", ⟨1, 41⟩, .message, [], false⟩) := by decide +kernel
  have missed : relayFile.resolve (".".intercalate ["Letter"]) "post.Stamp" = none := by
    decide +kernel
  have nearest := ((resolve_innermost names parts stamp).1 (by decide)).1 _ |>.mp here
  have nothing := ((resolve_innermost names parts postStamp).1 (by decide)).2.mp missed
  have front := (resolve_innermost names parts stamp).2.2.mpr ⟨".post", rfl, .inr (by decide)⟩
  exact ⟨written, nearest, nothing, front, by decide⟩

end File

end GrpcMock.Proto
