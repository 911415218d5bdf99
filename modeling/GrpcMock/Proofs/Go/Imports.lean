import GrpcMock.Go.Imports
import GrpcMock.Proofs.Decimal.Integer
import GrpcMock.Proofs.Sorted
import GrpcMock.Proofs.Text.Ascii
import GrpcMock.Proofs.Text.Runs
import GrpcMock.Proto.Expect
import Mathlib.Data.List.Infix
import Mathlib.Data.List.Perm.Subperm
import Mathlib.Data.String.Basic

/-!
The names that a file gives to packages, over all that it asks of its imports. A package keeps the
name that it got first and shares it with no other, so an identifier that is written tells what it
stands for.
-/

namespace GrpcMock.Go

open GrpcMock.Naming (goPackageName)
open GrpcMock.Proto (isIdentifier)
open GrpcMock.Text (afterLast isNameChar isNameStart run_append_inj)

-----------------------------------------------------------------------------------------
-- Identifiers
-----------------------------------------------------------------------------------------

/-- An identifier begins with a letter or an underscore and goes on with such and digits. -/
theorem isIdentifier_cons {first : Char} {rest : List Char}
    : isIdentifier (String.ofList (first :: rest))
      ↔ isNameStart first ∧ ∀ c ∈ first :: rest, isNameChar c := by
  simp [isIdentifier]

/-- The name of a package is an identifier, whatever it is made of. -/
theorem isIdentifier_goPackageName (name : String) : isIdentifier (goPackageName name) := by
  have each
      : ∀ c ∈ name.toList.map fun c => if c.isAlphanum || c = '_' then c else '_',
          isNameChar c := by
    intro c member
    obtain ⟨other, -, rfl⟩ := List.mem_map.mp member
    split
    · rename_i allowed
      simpa [isNameChar] using allowed
    · decide
  unfold goPackageName
  split
  · decide
  · rename_i first rest chars
    rw [chars] at each
    split
    · exact isIdentifier_cons.mpr ⟨by decide, List.forall_mem_cons.mpr ⟨by decide, each⟩⟩
    · have head := each first (List.mem_cons_self ..)
      refine isIdentifier_cons.mpr ⟨?_, each⟩
      simp_all [isNameChar, isNameStart, Char.isAlphanum]

namespace Imports

/-- A numbered name is the name itself at first, and has the number behind it later. -/
theorem toList_numbered (base : String) (n : Nat)
    : (numbered base n).toList
      = base.toList ++ if n = 0 then [] else Nat.toDigits 10 n := by
  unfold numbered
  split
  · simp
  · rw [String.toList_append]
    exact congrArg (base.toList ++ ·) Nat.toList_repr

/-- A number at the end of an identifier leaves it one. -/
theorem isIdentifier_numbered {base : String} (h : isIdentifier base) (n : Nat)
    : isIdentifier (numbered base n) := by
  have digits : ∀ c ∈ if n = 0 then [] else Nat.toDigits 10 n, isNameChar c := by
    intro c member
    split at member
    · cases member
    · simp [isNameChar, Char.isAlphanum, Decimal.isDigit_toDigits member]
  simp only [isIdentifier, Bool.and_eq_true, List.all_eq_true, toList_numbered] at h ⊢
  refine ⟨?_, fun c member => (List.mem_append.mp member).elim (h.2 c) (digits c)⟩
  cases chars : base.toList with
  | nil => simp [chars] at h
  | cons first rest => simpa [chars] using h.1

-----------------------------------------------------------------------------------------
-- The search for a free name
-----------------------------------------------------------------------------------------

/-- The names that are tried for a package are all different. -/
theorem numbered_injective (base : String) : Function.Injective (numbered base) := by
  intro m n same
  have suffixes := congrArg String.toList same
  rw [toList_numbered, toList_numbered, List.append_cancel_left_eq] at suffixes
  split at suffixes <;> split at suffixes
  · omega
  · exact absurd suffixes.symm Nat.toDigits_ne_nil
  · exact absurd suffixes Nat.toDigits_ne_nil
  · rw [← Decimal.digitsValue_toDigits m, suffixes, Decimal.digitsValue_toDigits]

/-- The search for a free name ends with a number: that name is free, and all before it are taken.
-/
structure SearchEnds (base : String) (taken : List String) (n : Nat) : Prop where
  free : numbered base n ∉ taken
  least : ∀ m < n, numbered base m ∈ taken

/-- Of the names that are tried, one more than there are names taken, some name is free. -/
theorem exists_free (base : String) (taken : List String)
    : ∃ n ≤ taken.length, numbered base n ∉ taken := by
  by_contra none
  push Not at none
  have distinct : ((List.range (taken.length + 1)).map (numbered base)).Nodup :=
    List.nodup_range.map (numbered_injective base)
  have included : (List.range (taken.length + 1)).map (numbered base) ⊆ taken := by
    intro name member
    obtain ⟨n, within, rfl⟩ := List.mem_map.mp member
    exact none n (Nat.le_of_lt_succ (List.mem_range.mp within))
  have bound := (List.subperm_of_subset distinct included).length_le
  rw [List.length_map, List.length_range] at bound
  omega

/-- The name that a package gets is the one at which the search ends. -/
theorem freeName_searchEnds (base : String) (taken : List String)
    : ∃ n ≤ taken.length,
        SearchEnds base taken n ∧ freeName base taken = numbered base n := by
  have search
      : freeName base taken
        = (((List.range (taken.length + 1)).find? (numbered base · ∉ taken)).map
            (numbered base)).getD base :=
    congrArg (Option.getD · base) List.find?_map
  cases found : (List.range (taken.length + 1)).find? (numbered base · ∉ taken) with
  | none =>
      obtain ⟨n, within, free⟩ := exists_free base taken
      have tried := List.find?_eq_none.mp found n (List.mem_range.mpr (Nat.lt_succ_of_le within))
      exact absurd free (by simpa using tried)
  | some n =>
      obtain ⟨free, within, least⟩ := List.find?_range_eq_some.mp found
      refine ⟨n, Nat.le_of_lt_succ (List.mem_range.mp within), ⟨by simpa using free, ?_⟩, ?_⟩
      · exact fun m before => by simpa using least m before
      · rw [search, found, Option.map_some, Option.getD_some]

-----------------------------------------------------------------------------------------
-- What imports keep to
-----------------------------------------------------------------------------------------

/-- The name of a package, if it has one yet. -/
def name? (imports : Imports) (path : String) : Option String :=
  Sorted.find? path imports.aliases

/-- An identifier that is written without the name of a package. -/
def IsLocal (imports : Imports) (ident : GoIdent) : Prop :=
  ident.importPath = "" ∨ ident.importPath = imports.localPath

/-- Packages are in the order of their paths, with names that are identifiers and differ. -/
structure WellNamed (imports : Imports) : Prop where
  ascending : Sorted.Ascending imports.aliases
  names : (imports.aliases.map Prod.snd).Nodup
  identifiers : ∀ entry ∈ imports.aliases, isIdentifier entry.2

/-- The packages that had a name before have the same name after. -/
structure Extends (before after : Imports) : Prop where
  localPath : after.localPath = before.localPath
  names : ∀ path name, before.name? path = some name → after.name? path = some name

/-- Imports that stay as they are keep their names. -/
theorem Extends.refl (imports : Imports) : Extends imports imports :=
  ⟨rfl, fun _ _ named => named⟩

/-- Names that are kept in two steps are kept. -/
theorem Extends.trans {first second third : Imports} (hf : Extends first second)
    (hs : Extends second third)
    : Extends first third :=
  ⟨hs.localPath.trans hf.localPath, fun path name named =>
    hs.names path name (hf.names path name named)⟩

/-- A file that imports nothing has no name that could be wrong. -/
theorem wellNamed_empty (localPath : String) : (empty localPath).WellNamed :=
  ⟨.nil, .nil, nofun⟩

/-- Every package has an identifier for its name. -/
theorem WellNamed.isIdentifier {imports : Imports} (h : imports.WellNamed) {path name : String}
    (named : imports.name? path = some name)
    : isIdentifier name :=
  h.identifiers _ (Sorted.mem_of_find? named)

/-- No two packages have one name. -/
theorem WellNamed.path_eq {imports : Imports} (h : imports.WellNamed) {path other name : String}
    (first : imports.name? path = some name) (second : imports.name? other = some name)
    : path = other := by
  have same :=
    List.inj_on_of_nodup_map h.names (Sorted.mem_of_find? first) (Sorted.mem_of_find? second) rfl
  exact congrArg Prod.fst same

-----------------------------------------------------------------------------------------
-- One package after the other
-----------------------------------------------------------------------------------------

/-- The name that the first part of a search tries for a package. -/
def baseName (path : String) : String :=
  goPackageName (afterLast '/' path)

/-- The imports with one package more. -/
def withName (imports : Imports) (path name : String) : Imports :=
  { imports with aliases := Sorted.insert path name imports.aliases }

/-- A package that has a name keeps it, and nothing is added for it. -/
theorem importPath_of_name? {imports : Imports} {path name : String}
    (named : imports.name? path = some name)
    : imports.importPath path = (name, imports) := by
  rw [importPath, show Sorted.find? path imports.aliases = some name from named]

/-- A package without a name gets the one at which a search ends. -/
theorem importPath_of_unnamed {imports : Imports} {path : String}
    (unnamed : imports.name? path = none)
    : ∃ n,
        SearchEnds (baseName path) (imports.aliases.map Prod.snd) n
        ∧ imports.importPath path
          = (numbered (baseName path) n, imports.withName path (numbered (baseName path) n)) := by
  obtain ⟨n, -, ends, found⟩ := freeName_searchEnds (baseName path) (imports.aliases.map Prod.snd)
  refine ⟨n, ends, ?_⟩
  rw [← found, importPath, show Sorted.find? path imports.aliases = none from unnamed]
  rfl

/-- A package has a name already, or it gets one by a search. -/
theorem importPath_cases (imports : Imports) (path : String)
    : (∃ name,
        imports.name? path = some name ∧ imports.importPath path = (name, imports))
      ∨ ∃ n,
          imports.name? path = none
          ∧ SearchEnds (baseName path) (imports.aliases.map Prod.snd) n
          ∧ imports.importPath path
            = (numbered (baseName path) n,
                imports.withName path (numbered (baseName path) n)) := by
  cases named : imports.name? path with
  | some name => exact .inl ⟨name, rfl, importPath_of_name? named⟩
  | none =>
      obtain ⟨n, ends, given⟩ := importPath_of_unnamed named
      exact .inr ⟨n, rfl, ends, given⟩

/-- A package that is given a name has it, and others have the names they had. -/
theorem name?_withName (imports : Imports) (path name other : String)
    : (imports.withName path name).name? other
      = if other = path then some name else imports.name? other :=
  Sorted.find?_insert

/-- A package that comes in gets a name of its own that is an identifier. -/
theorem WellNamed.importPath {imports : Imports} (h : imports.WellNamed) (path : String)
    : (imports.importPath path).2.WellNamed := by
  rcases imports.importPath_cases path with ⟨_, -, given⟩ | ⟨n, unnamed, ends, given⟩
  · rw [given]
    exact h
  · have order
        : (imports.withName path (numbered (baseName path) n)).aliases.Perm
            ((path, numbered (baseName path) n) :: imports.aliases) :=
      Sorted.insert_perm (Sorted.find?_eq_none.mp unnamed)
    rw [given]
    refine ⟨h.ascending.insert, ?_, fun entry member => ?_⟩
    · exact ((order.map Prod.snd).nodup_iff).mpr (List.nodup_cons.mpr ⟨ends.free, h.names⟩)
    · rcases List.mem_cons.mp (order.mem_iff.mp member) with rfl | earlier
      · exact isIdentifier_numbered (isIdentifier_goPackageName _) n
      · exact h.identifiers entry earlier

/-- A package that was asked for has the name that was given. -/
theorem name?_importPath (imports : Imports) (path : String)
    : (imports.importPath path).2.name? path = some (imports.importPath path).1 := by
  rcases imports.importPath_cases path with ⟨_, named, given⟩ | ⟨n, -, -, given⟩
  · rw [given]
    exact named
  · rw [given]
    exact (name?_withName ..).trans (if_pos rfl)

/-- Only the package that is asked for can get a name. -/
theorem name?_importPath_of_ne (imports : Imports) {path other : String} (differs : other ≠ path)
    : (imports.importPath path).2.name? other = imports.name? other := by
  rcases imports.importPath_cases path with ⟨_, -, given⟩ | ⟨n, -, -, given⟩
  · rw [given]
  · rw [given]
    exact (name?_withName ..).trans (if_neg differs)

/-- No package loses its name when another one comes in. -/
theorem extends_importPath (imports : Imports) (path : String)
    : Extends imports (imports.importPath path).2 := by
  refine ⟨?_, fun other name named => ?_⟩
  · rcases imports.importPath_cases path with ⟨_, -, given⟩ | ⟨n, -, -, given⟩ <;> rw [given]
    rfl
  · by_cases same : other = path
    · subst same
      rw [importPath_of_name? named]
      exact named
    · exact (name?_importPath_of_ne imports same).trans named

-----------------------------------------------------------------------------------------
-- One identifier after the other
-----------------------------------------------------------------------------------------

/-- An identifier of the package of the file stands alone. -/
theorem spell_of_isLocal {imports : Imports} {ident : GoIdent} (h : imports.IsLocal ident)
    : imports.spell ident = (ident.name, imports) := by
  rw [spell, if_pos (by simpa [IsLocal] using h)]

/-- Any other stands behind the name of its package and a dot. -/
theorem spell_of_not_isLocal {imports : Imports} {ident : GoIdent} (h : ¬imports.IsLocal ident)
    : imports.spell ident
      = ((imports.importPath ident.importPath).1 ++ "." ++ ident.name,
          (imports.importPath ident.importPath).2) := by
  rw [spell, if_neg (by simpa [IsLocal] using h)]

/-- Names stay distinct identifiers when something is spelled. -/
theorem WellNamed.spell {imports : Imports} (h : imports.WellNamed) (ident : GoIdent)
    : (imports.spell ident).2.WellNamed := by
  by_cases within : imports.IsLocal ident
  · rw [spell_of_isLocal within]
    exact h
  · rw [spell_of_not_isLocal within]
    exact h.importPath ident.importPath

/-- No package loses its name when something is spelled. -/
theorem extends_spell (imports : Imports) (ident : GoIdent)
    : Extends imports (imports.spell ident).2 := by
  by_cases within : imports.IsLocal ident
  · rw [spell_of_isLocal within]
    exact .refl imports
  · rw [spell_of_not_isLocal within]
    exact imports.extends_importPath ident.importPath

-----------------------------------------------------------------------------------------
-- All that is asked
-----------------------------------------------------------------------------------------

/-- What a file asks of its imports. -/
inductive Call where
  /-- The name of a package. -/
  | name (path : String)
  /-- How an identifier is written. -/
  | spell (ident : GoIdent)

/-- The answer to a call, and the imports after it. -/
def answer (imports : Imports) : Call → String × Imports
  | .name path => imports.importPath path
  | .spell ident => imports.spell ident

/-- The answers to calls one after the other. -/
def answers (imports : Imports) : List Call → List String
  | [] => []
  | call :: rest => (imports.answer call).1 :: (imports.answer call).2.answers rest

/-- The imports after all calls. -/
def after (imports : Imports) (calls : List Call) : Imports :=
  calls.foldl (fun imports call => (imports.answer call).2) imports

/-- Nothing that is asked of the imports makes a name wrong, by cases on what is asked. -/
theorem WellNamed.answer {imports : Imports} (h : imports.WellNamed) (call : Call)
    : (imports.answer call).2.WellNamed := by
  cases call with
  | name path => exact h.importPath path
  | spell ident => exact h.spell ident

/-- Nothing that is asked of the imports takes a name away. -/
theorem extends_answer (imports : Imports) (call : Call)
    : Extends imports (imports.answer call).2 := by
  cases call with
  | name path => exact imports.extends_importPath path
  | spell ident => exact imports.extends_spell ident

/-- A list of calls makes no name wrong, by induction on it. -/
theorem WellNamed.after {imports : Imports} (h : imports.WellNamed) (calls : List Call)
    : (imports.after calls).WellNamed := by
  induction calls generalizing imports with
  | nil => exact h
  | cons call rest ih => exact ih (h.answer call)

/-- It takes no name away either. -/
theorem extends_after (imports : Imports) (calls : List Call)
    : Extends imports (imports.after calls) := by
  induction calls generalizing imports with
  | nil => exact .refl imports
  | cons call rest ih => exact (imports.extends_answer call).trans (ih _)

/-- What had a name after some of the calls has it after all of them. -/
theorem extends_of_append {imports : Imports} {calls earlier later : List Call}
    (split : calls = earlier ++ later)
    : Extends (imports.after earlier) (imports.after calls) := by
  have last : imports.after calls = (imports.after earlier).after later :=
    split ▸ List.foldl_append
  rw [last]
  exact extends_after _ later

/-- A package that was asked for once is called the same ever after. -/
theorem importPath_again {imports last : Imports} {path : String}
    (h : Extends (imports.importPath path).2 last)
    : last.importPath path = ((imports.importPath path).1, last) :=
  importPath_of_name? (h.names _ _ (imports.name?_importPath path))

/-- Which identifiers are those of the file does not change. -/
theorem Extends.isLocal_iff {before after : Imports} {ident : GoIdent} (h : Extends before after)
    : after.IsLocal ident ↔ before.IsLocal ident := by
  rw [IsLocal, IsLocal, h.localPath]

/-- What was answered once is answered again, and nothing more is imported for it. -/
theorem spell_again {imports last : Imports} {ident : GoIdent}
    (h : Extends (imports.spell ident).2 last)
    : last.spell ident = ((imports.spell ident).1, last) := by
  have throughout : last.IsLocal ident ↔ imports.IsLocal ident :=
    ((imports.extends_spell ident).trans h).isLocal_iff
  by_cases within : imports.IsLocal ident
  · rw [spell_of_isLocal within, spell_of_isLocal (throughout.mpr within)]
  · rw [spell_of_not_isLocal within] at h ⊢
    rw [spell_of_not_isLocal (mt throughout.mp within), importPath_again h]

/-- Whatever was asked once is answered the same ever after, and without further imports. -/
theorem answer_again {imports last : Imports} {call : Call}
    (h : Extends (imports.answer call).2 last)
    : last.answer call = ((imports.answer call).1, last) := by
  cases call with
  | name path => exact importPath_again h
  | spell ident => exact spell_again h

/-- Nothing more is imported for what was asked. -/
theorem answer_after {imports : Imports} {calls : List Call} {call : Call} (asked : call ∈ calls)
    : ((imports.after calls).answer call).2 = imports.after calls := by
  obtain ⟨earlier, later, split⟩ := List.append_of_mem asked
  have again : calls = earlier ++ [call] ++ later := by
    rw [split, List.append_assoc]
    rfl
  have kept : Extends (imports.after (earlier ++ [call])) (imports.after calls) :=
    extends_of_append again
  rw [after, List.foldl_append] at kept
  rw [answer_again kept]

/-- All answers are those that the imports give in the end, by induction on the calls. -/
theorem answers_eq (imports : Imports) (calls : List Call)
    : imports.answers calls = calls.map fun call => ((imports.after calls).answer call).1 := by
  induction calls generalizing imports with
  | nil => rfl
  | cons call rest ih =>
      have last := (imports.answer call).2.extends_after rest
      rw [answers, ih, List.map_cons]
      exact congrArg₂ _ (congrArg Prod.fst (answer_again last)).symm rfl

/-- An answer that is given on the way is the one that would be given at the end. -/
theorem answers_getElem? {imports : Imports} {calls : List Call} {i : Nat} {call : Call}
    (asked : calls[i]? = some call)
    : (imports.answers calls)[i]? = some ((imports.after calls).answer call).1 := by
  rw [answers_eq, List.getElem?_map, asked, Option.map_some]

-----------------------------------------------------------------------------------------
-- What identifiers stand for
-----------------------------------------------------------------------------------------

/-- The package that an identifier belongs to. One without a path is in the package of the file. -/
def packageOf (localPath : String) (ident : GoIdent) : String :=
  if ident.importPath = "" then localPath else ident.importPath

/-- An identifier is one of the file if its package is that of the file. -/
theorem isLocal_iff {imports : Imports} {ident : GoIdent}
    : imports.IsLocal ident ↔ packageOf imports.localPath ident = imports.localPath := by
  unfold packageOf IsLocal
  split <;> simp_all

/-- The name of a package and that of an identifier in it can be told apart at the dot. -/
theorem qualified_inj {left right name other : String} (hl : isIdentifier left)
    (hr : isIdentifier right) (same : left ++ "." ++ name = right ++ "." ++ other)
    : left = right ∧ name = other := by
  have chars := congrArg String.toList same
  simp only [String.toList_append, List.append_assoc] at chars
  obtain ⟨packages, names⟩ := run_append_inj (p := (isNameChar ·))
    (List.all_eq_true.mp (Bool.and_eq_true_iff.mp hl).2)
    (List.all_eq_true.mp (Bool.and_eq_true_iff.mp hr).2)
    (by simp; decide) (by simp; decide) chars
  exact ⟨String.toList_inj.mp packages, String.toList_inj.mp (List.append_cancel_left names)⟩

/-- An identifier with a name of a package before it has a dot. -/
theorem dot_mem_spell {imports : Imports} {ident : GoIdent} (h : ¬imports.IsLocal ident)
    : '.' ∈ (imports.spell ident).1.toList := by
  rw [spell_of_not_isLocal h]
  simp

/-- Identifiers that have been written alike are the same, unless a dot in the name of one makes it
look like a package. -/
theorem WellNamed.spell_inj {imports : Imports} (h : imports.WellNamed) {ident other : GoIdent}
    (written : (imports.spell ident).2 = imports) (writtenToo : (imports.spell other).2 = imports)
    (dotless : '.' ∉ ident.name.toList) (dotlessToo : '.' ∉ other.name.toList)
    (same : (imports.spell ident).1 = (imports.spell other).1)
    : ident.name = other.name
      ∧ packageOf imports.localPath ident = packageOf imports.localPath other := by
  by_cases within : imports.IsLocal ident <;> by_cases withinToo : imports.IsLocal other
  · rw [spell_of_isLocal within, spell_of_isLocal withinToo] at same
    exact ⟨same, (isLocal_iff.mp within).trans (isLocal_iff.mp withinToo).symm⟩
  · have dot := dot_mem_spell withinToo
    rw [← same, spell_of_isLocal within] at dot
    exact absurd dot dotless
  · have dot := dot_mem_spell within
    rw [same, spell_of_isLocal withinToo] at dot
    exact absurd dot dotlessToo
  · rw [spell_of_not_isLocal within] at same written
    rw [spell_of_not_isLocal withinToo] at same writtenToo
    have named := imports.name?_importPath ident.importPath
    have namedToo := imports.name?_importPath other.importPath
    dsimp only at written writtenToo
    rw [written] at named
    rw [writtenToo] at namedToo
    obtain ⟨packages, names⟩ :=
      qualified_inj (h.isIdentifier named) (h.isIdentifier namedToo) same
    rw [packages] at named
    exact ⟨names, by rw [packageOf, packageOf, h.path_eq named namedToo]⟩

/-- Whatever a file asks of its imports, and in whatever order: no two packages have one name, and
all names are identifiers. A package keeps the name that it got first, and is given by that name
whenever it is asked for; the search for the name of a package that has none comes to an end. So
identifiers that are written alike, and have no dots in their own names, have one name and are of
one package. -/
theorem calls_unambiguous (localPath : String) (calls : List Call)
    : let start := empty localPath
      let last := start.after calls
      (∀ path other name,
          last.name? path = some name → last.name? other = some name → path = other)
      ∧ (∀ path name, last.name? path = some name → isIdentifier name)
      ∧ (∀ earlier later path name,
          calls = earlier ++ later
          → (start.after earlier).name? path = some name
          → last.name? path = some name)
      ∧ (∀ (i : Nat) (path : String),
          calls[i]? = some (.name path) → (start.answers calls)[i]? = last.name? path)
      ∧ (∀ path,
          last.name? path = none
          → ∃ n,
              SearchEnds (baseName path) (last.aliases.map Prod.snd) n
              ∧ (last.importPath path).1 = numbered (baseName path) n)
      ∧ ∀ (i j : Nat) (ident other : GoIdent) (text : String),
          calls[i]? = some (.spell ident)
          → calls[j]? = some (.spell other)
          → (start.answers calls)[i]? = some text
          → (start.answers calls)[j]? = some text
          → '.' ∉ ident.name.toList
          → '.' ∉ other.name.toList
          → ident.name = other.name ∧ packageOf localPath ident = packageOf localPath other := by
  intro start last
  have wellNamed : last.WellNamed := (wellNamed_empty localPath).after calls
  have home : last.localPath = localPath := (start.extends_after calls).localPath
  refine ⟨fun _ _ _ => wellNamed.path_eq, fun _ _ => wellNamed.isIdentifier, ?_, ?_, ?_, ?_⟩
  · intro earlier later path name split named
    exact (extends_of_append split).names path name named
  · intro i path asked
    have named := last.name?_importPath path
    have same : (last.importPath path).2 = last := answer_after (List.mem_of_getElem? asked)
    rw [same] at named
    rw [answers_getElem? asked, named]
    rfl
  · intro path unnamed
    obtain ⟨n, ends, found⟩ := importPath_of_unnamed unnamed
    exact ⟨n, ends, congrArg Prod.fst found⟩
  · intro i j ident other text asked askedToo answered answeredToo dotless dotlessToo
    rw [answers_getElem? asked] at answered
    rw [answers_getElem? askedToo] at answeredToo
    have same : (last.spell ident).1 = (last.spell other).1 :=
      (Option.some.inj answered).trans (Option.some.inj answeredToo).symm
    have apart := wellNamed.spell_inj (answer_after (List.mem_of_getElem? asked))
      (answer_after (List.mem_of_getElem? askedToo)) dotless dotlessToo same
    rwa [home] at apart

/-- Packages that end alike, after one that ends as a numbered name of them would, and an identifier
of the package of the file with its path and without. -/
def apiCalls : List Call :=
  [
    .name "first/api1",
    .spell ⟨"Call", "second/api"⟩,
    .spell ⟨"Call", "third/api"⟩,
    .spell ⟨"Call", "shop/gen"⟩,
    .spell ⟨"Call", ""⟩,
    .name "second/api"
  ]

/-- The third package is named past the first one, and what is written alike is the same. -/
theorem calls_unambiguous_api
    : let start := empty "shop/gen"
      let last := start.after apiCalls
      start.answers apiCalls = ["api1", "api.Call", "api2.Call", "Call", "Call", "api"]
      ∧ last.name? "second/api" = some "api"
      ∧ isIdentifier "api"
      ∧ (last.name? "fourth/api" = none
        ∧ ∃ n,
            SearchEnds "api" (last.aliases.map Prod.snd) n
            ∧ (last.importPath "fourth/api").1 = numbered "api" n)
      ∧ packageOf "shop/gen" ⟨"Call", "shop/gen"⟩ = packageOf "shop/gen" ⟨"Call", ""⟩ := by
  intro start last
  obtain ⟨-, identifiers, kept, asked, searched, alike⟩ :=
    calls_unambiguous "shop/gen" apiCalls
  have answers
      : start.answers apiCalls = ["api1", "api.Call", "api2.Call", "Call", "Call", "api"] := by
    decide +kernel
  have named : last.name? "second/api" = some "api" := by
    have given := asked 5 "second/api" rfl
    rw [show (empty "shop/gen").answers apiCalls = _ from answers] at given
    exact given.symm
  have unnamed : last.name? "fourth/api" = none := by decide +kernel
  have base : baseName "fourth/api" = "api" := by decide +kernel
  refine ⟨answers, named, identifiers _ _ named, ⟨unnamed, base ▸ searched _ unnamed⟩, ?_⟩
  have written (i : Nat) (h : i = 3 ∨ i = 4)
      : ((empty "shop/gen").answers apiCalls)[i]? = some "Call" := by
    rw [show (empty "shop/gen").answers apiCalls = _ from answers]
    rcases h with rfl | rfl <;> rfl
  exact (alike 3 4 _ _ "Call" rfl rfl (written 3 (.inl rfl)) (written 4 (.inr rfl)) (by decide)
    (by decide)).2

end Imports

end GrpcMock.Go
