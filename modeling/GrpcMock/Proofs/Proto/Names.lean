import GrpcMock.Proofs.Naming
import GrpcMock.Proofs.Proto.Written
import GrpcMock.Proofs.Text.Split
import GrpcMock.Proto.Scope
import Mathlib.Data.List.Induction
import Mathlib.Data.List.Nodup

/-!
The names of definitions. Each is a path of identifiers, so that it falls apart at its dots into the
names of the messages around it and its own.
-/

namespace GrpcMock.Proto

open GrpcMock.Text (isNameChar isNameStart split split_append split_dotless)

/-- The paths of identifiers. -/
inductive ScopeName : String → Prop
  | root {name : String} (named : isIdentifier name) : ScopeName name
  | inside {scope name : String} (outer : ScopeName scope) (named : isIdentifier name)
    : ScopeName (scope ++ "." ++ name)

-----------------------------------------------------------------------------------------
-- Identifiers
-----------------------------------------------------------------------------------------

/-- A dot is no character of names. -/
theorem not_isNameChar_dot : ¬isNameChar '.' := by
  decide

/-- So no name begins with one. -/
theorem ne_dot_of_isNameStart {c : Char} (starts : isNameStart c) : c ≠ '.' := by
  rintro rfl
  exact not_isNameChar_dot (Text.isNameChar_of_isNameStart starts)

/-- An identifier starts with a letter or an underscore. -/
theorem isIdentifier_head {name : String} (named : isIdentifier name)
    : ∃ first rest, name.toList = first :: rest ∧ isNameStart first := by
  have starts := (Bool.and_eq_true_iff.mp named).1
  cases chars : name.toList with
  | nil =>
      rw [chars] at starts
      cases starts
  | cons first rest =>
      rw [chars] at starts
      exact ⟨first, rest, rfl, starts⟩

/-- An identifier is made of characters of names. -/
theorem isIdentifier_isNameChar {name : String} (named : isIdentifier name)
    : ∀ c ∈ name.toList, isNameChar c :=
  List.all_eq_true.mp (Bool.and_eq_true_iff.mp named).2

/-- An identifier can go on with whatever stands inside names. -/
theorem isIdentifier_append {left right : String} (named : isIdentifier left)
    (each : ∀ c ∈ right.toList, isNameChar c)
    : isIdentifier (left ++ right) := by
  obtain ⟨first, rest, chars, starts⟩ := isIdentifier_head named
  have inside := isIdentifier_isNameChar named
  rw [isIdentifier, Bool.and_eq_true_iff, List.all_eq_true, String.toList_append]
  refine ⟨?_, fun c member => (List.mem_append.mp member).elim (inside c) (each c)⟩
  rw [chars]
  exact starts

/-- An identifier has no dot in it. -/
theorem isIdentifier_dotless {name : String} (named : isIdentifier name)
    : '.' ∉ name.toList := fun dot =>
  not_isNameChar_dot (isIdentifier_isNameChar named _ dot)

/-- An identifier has at least one. -/
theorem isIdentifier_ne_empty {name : String} (named : isIdentifier name) : name ≠ "" := by
  rintro rfl
  obtain ⟨_, _, chars, _⟩ := isIdentifier_head named
  cases chars

-----------------------------------------------------------------------------------------
-- Paths
-----------------------------------------------------------------------------------------

namespace ScopeName

/-- A path starts with its first identifier. -/
theorem head {scope : String} (h : ScopeName scope)
    : ∃ first rest, scope.toList = first :: rest ∧ isNameStart first := by
  induction h with
  | root named => exact isIdentifier_head named
  | @inside scope name _ _ ih =>
      obtain ⟨first, rest, chars, starts⟩ := ih
      exact ⟨first, rest ++ '.' :: name.toList, by simp [chars], starts⟩

/-- Between its dots a path is made of characters of names. -/
theorem isNameChar {scope : String} (h : ScopeName scope)
    : ∀ c ∈ scope.toList, c ≠ '.' → Text.isNameChar c := by
  induction h with
  | root named => exact fun c member _ => isIdentifier_isNameChar named c member
  | @inside scope name _ named ih =>
      intro c member other
      rw [String.toList_append, String.toList_append, List.mem_append, List.mem_append] at member
      rcases member with (outer | dot) | last
      · exact ih c outer other
      · exact absurd (List.mem_singleton.mp dot) other
      · exact isIdentifier_isNameChar named c last

/-- A path has at least one identifier. -/
theorem ne_empty {scope : String} (h : ScopeName scope) : scope ≠ "" := by
  rintro rfl
  obtain ⟨_, _, chars, _⟩ := h.head
  cases chars

/-- Inside of something, a name stands behind its path and a dot. -/
theorem inScope_eq {scope : String} (h : ScopeName scope) (name : String)
    : inScope scope name = scope ++ "." ++ name := by
  have nonempty : ¬scope.isEmpty := fun empty => h.ne_empty (String.isEmpty_iff.mp empty)
  rw [inScope, if_neg nonempty]

/-- So it is a path again. -/
theorem inScope {scope name : String} (h : ScopeName scope) (named : isIdentifier name)
    : ScopeName (inScope scope name) := by
  rw [h.inScope_eq]
  exact .inside h named

/-- No piece of a path is empty, by induction on the path. -/
theorem parts {scope : String} (h : ScopeName scope) : ∀ part ∈ split '.' scope, part ≠ "" := by
  induction h with
  | root named =>
      rw [split_dotless (isIdentifier_dotless named)]
      intro part member
      rw [List.mem_singleton.mp member]
      exact isIdentifier_ne_empty named
  | inside _ named ih =>
      rw [split_append, split_dotless (isIdentifier_dotless named)]
      intro part member
      rcases List.mem_append.mp member with outer | last
      · exact ih part outer
      · rw [List.mem_singleton.mp last]
        exact isIdentifier_ne_empty named

/-- What is around a name is a path as well, if there is anything. -/
theorem around {name : String} (h : ScopeName name)
    : ScopeName ((Text.beforeLast? '.' name).getD name) := by
  cases h with
  | root named =>
      rw [Text.beforeLast?_of_not_mem (isIdentifier_dotless named)]
      exact .root named
  | @inside scope last outer named =>
      have chars : scope ++ "." ++ last = String.ofList (scope.toList ++ '.' :: last.toList) := by
        apply String.toList_inj.mp
        simp
      rw [chars, Text.beforeLast?_append _ (isIdentifier_dotless named), String.ofList_toList]
      exact outer

/-- What stands in a scope is not called by a name from the root. -/
theorem stripStart? {scope : String} (h : ScopeName scope) (name : String)
    : Text.stripStart? "." (scope ++ "." ++ name) = none := by
  obtain ⟨first, rest, chars, starts⟩ := h.head
  have same : ('.' == first) = false := by simpa using Ne.symm (ne_dot_of_isNameStart starts)
  simp [Text.stripStart?, chars, List.isPrefixOf?, same]

end ScopeName

/-- No keyword has a dot in it. -/
theorem ofKeyword?_dotted (scope name : String)
    : FieldKind.ofKeyword? (scope ++ "." ++ name) = none := by
  refine List.find?_eq_none.mpr fun kind _ => ?_
  have dotted : '.' ∈ (scope ++ "." ++ name).toList := by simp
  have plain : '.' ∉ kind.keyword.toList := by cases kind <;> decide
  intro both
  have same : kind.keyword = scope ++ "." ++ name := by
    simpa using (Bool.and_eq_true_iff.mp both).2
  exact plain (same ▸ dotted)

-----------------------------------------------------------------------------------------
-- Go names
-----------------------------------------------------------------------------------------

namespace ScopeName

/-- What a path is called in Go begins with a capital. -/
theorem goCamelCase_head {scope : String} (h : ScopeName scope)
    : ∃ capital others,
        (Naming.goCamelCase scope).toList = capital :: others ∧ capital.isUpper := by
  obtain ⟨first, rest, chars, starts⟩ := h.head
  rw [Naming.toList_goCamelCase h.isNameChar, chars]
  exact Naming.camelCase_starts starts rest

/-- What a path is called in Go is an identifier. -/
theorem isIdentifier_goCamelCase {scope : String} (h : ScopeName scope)
    : isIdentifier (Naming.goCamelCase scope) := by
  obtain ⟨capital, others, chars, upper⟩ := h.goCamelCase_head
  have each := Naming.goCamelCase_isNameChar h.isNameChar
  rw [isIdentifier, Bool.and_eq_true_iff, List.all_eq_true]
  have letter : capital.isAlpha := Bool.or_eq_true_iff.mpr (.inl upper)
  have starts : isNameStart capital := Bool.or_eq_true_iff.mpr (.inl letter)
  rw [chars]
  exact ⟨starts, chars ▸ each⟩

end ScopeName

-----------------------------------------------------------------------------------------
-- The names of definitions
-----------------------------------------------------------------------------------------

/-- The definitions of a list are named by paths. -/
def AllPaths (definitions : List Definition) : Prop :=
  ∀ definition ∈ definitions, ScopeName definition.name

/-- Lists of such definitions can be put together. -/
theorem AllPaths.append {left right : List Definition} (hl : AllPaths left) (hr : AllPaths right)
    : AllPaths (left ++ right) :=
  List.forall_mem_append.mpr ⟨hl, hr⟩

/-- A nested message that is read has an identifier for its name. -/
theorem MessageItem.Written.named {scope : String} {name : Token} {field : Option Field}
    (h : (MessageItem.message name field).Written scope)
    : isIdentifier name.text := by
  cases h with
  | message named => exact named
  | group named => exact named

/-- What is nested in a message is named by paths that go on from it, by induction on how the
message is written. -/
theorem MessageBody.Written.allPaths {scope : String} {body : MessageBody} (h : body.Written scope)
    (outer : ScopeName scope)
    : AllPaths body.nested := by
  induction h with
  | close => simp [MessageBody.empty, AllPaths]
  | field _ _ ih => exact ih outer
  | mapField item _ ih =>
      cases item with
      | mapField named =>
          have goName := (ScopeName.root named).isIdentifier_goCamelCase
          have last : ∀ c ∈ "Entry".toList, isNameChar c := List.all_eq_true.mp (by decide)
          have path := outer.inScope (isIdentifier_append goName last)
          exact AllPaths.append (List.forall_mem_singleton.mpr path) (ih outer)
  | enum item _ ih =>
      cases item with
      | enum written =>
          cases written with
          | intro named _ =>
              have path := outer.inScope named
              exact AllPaths.append (List.forall_mem_singleton.mpr path) (ih outer)
  | message item _ _ inside rest =>
      have path := outer.inScope item.named
      exact AllPaths.append (List.forall_mem_cons.mpr ⟨path, inside path⟩) (rest outer)

/-- All definitions of a file are named by paths, by induction on how they are read. -/
theorem DefinitionsWritten.allPaths {definitions : List Definition}
    (h : DefinitionsWritten definitions)
    : AllPaths definitions := by
  induction h with
  | nil => simp [AllPaths]
  | enum _ written ih =>
      cases written with
      | intro named _ => exact ih.append (List.forall_mem_singleton.mpr (.root named))
  | message _ named written ih =>
      have path : ScopeName _ := .root named
      exact ih.append (List.forall_mem_cons.mpr ⟨path, written.allPaths path⟩)

-----------------------------------------------------------------------------------------
-- Where definitions stand
-----------------------------------------------------------------------------------------

/-- A name is that of something inside a message of a list, which is not for the entries of a map.
-/
def StandsIn (definitions : List Definition) (name : String) : Prop :=
  ∃ message ∈ definitions,
    message.isMapEntry = false ∧ ∃ last, '.' ∉ last.toList ∧ name = message.name ++ "." ++ last

/-- What stands in a message of a list stands in one of a longer list. -/
theorem StandsIn.mono {definitions more : List Definition} {name : String}
    (h : StandsIn definitions name) (included : definitions ⊆ more)
    : StandsIn more name := by
  obtain ⟨message, member, inside⟩ := h
  exact ⟨message, included member, inside⟩

/-- Each definition in the body of a message stands in the message, or in one that is nested. -/
def MessageBody.Housed (scope : String) (body : MessageBody) : Prop :=
  ∀ found ∈ body.nested,
    (∃ last, '.' ∉ last.toList ∧ found.name = scope ++ "." ++ last)
    ∨ StandsIn body.nested found.name

/-- Definitions that stand where they should can be put in front of a body. -/
theorem MessageBody.Housed.after {scope : String} {fields : List Field}
    {definitions : List Definition} {body : MessageBody} (h : body.Housed scope)
    (hd
      : ∀ found ∈ definitions,
          (∃ last, '.' ∉ last.toList ∧ found.name = scope ++ "." ++ last)
          ∨ StandsIn definitions found.name)
    : (body.after fields definitions).Housed scope := by
  intro found member
  rcases List.mem_append.mp member with first | later
  · exact (hd found first).imp_right fun inside => inside.mono (List.subset_append_left _ _)
  · exact (h found later).imp_right fun inside => inside.mono (List.subset_append_right _ _)

/-- What is nested in a message stands in it, or in a message that is nested as well. -/
theorem MessageBody.Housed.definitions {scope : String} {position : Position}
    {body : MessageBody} (h : body.Housed scope)
    : ∀ found ∈ body.nested, StandsIn (body.definitions scope position) found.name := by
  intro found member
  rcases h found member with ⟨last, dotless, named⟩ | inside
  · exact ⟨_, List.mem_cons_self .., rfl, last, dotless, named⟩
  · exact inside.mono (List.subset_cons_self _ _)

/-- What is nested in a message stands in it, by induction on how its body is read. -/
theorem MessageBody.Written.housed {scope : String} {body : MessageBody} (h : body.Written scope)
    (outer : ScopeName scope)
    : body.Housed scope := by
  induction h with
  | close => simp [MessageBody.empty, MessageBody.Housed]
  | field _ _ ih => exact (ih outer).after (by simp)
  | mapField item _ ih =>
      cases item with
      | @mapField name =>
          refine (ih outer).after fun found member =>
            .inl ⟨Naming.goCamelCase name ++ "Entry", ?_, ?_⟩
          · simpa using Naming.goCamelCase_dotless name
          · rw [List.mem_singleton.mp member]
            exact outer.inScope_eq _
  | enum item _ ih =>
      cases item with
      | enum written =>
          cases written with
          | @intro name _ _ named =>
              refine (ih outer).after fun found member => .inl ⟨name, ?_, ?_⟩
              · exact isIdentifier_dotless named
              · rw [List.mem_singleton.mp member]
                exact outer.inScope_eq _
  | @message scope name field inner body item _ _ inside rest =>
      have named := item.named
      have path := outer.inScope named
      refine (rest outer).after fun found member => ?_
      rcases List.mem_cons.mp member with rfl | nested
      · exact .inl ⟨name.text, isIdentifier_dotless named, outer.inScope_eq _⟩
      · exact .inr ((inside path).definitions found nested)

/-- Each definition of a list has a name in one piece, or stands in a message of the list. -/
def Housed (definitions : List Definition) : Prop :=
  ∀ found ∈ definitions, '.' ∉ found.name.toList ∨ StandsIn definitions found.name

/-- Lists in which everything has its place can be put together. -/
theorem Housed.append {left right : List Definition} (hl : Housed left) (hr : Housed right)
    : Housed (left ++ right) := by
  intro found member
  rcases List.mem_append.mp member with member | member
  · exact (hl found member).imp_right fun inside => inside.mono (List.subset_append_left _ _)
  · exact (hr found member).imp_right fun inside => inside.mono (List.subset_append_right _ _)

/-- In a file every definition has its place. -/
theorem DefinitionsWritten.housed {definitions : List Definition}
    (h : DefinitionsWritten definitions)
    : Housed definitions := by
  induction h with
  | nil => simp [Housed]
  | enum _ written ih =>
      cases written with
      | intro named _ =>
          refine ih.append fun found member => .inl ?_
          rw [List.mem_singleton.mp member]
          exact isIdentifier_dotless named
  | message _ named written ih =>
      refine ih.append fun found member => ?_
      rcases List.mem_cons.mp member with rfl | nested
      · exact .inl (isIdentifier_dotless named)
      · exact .inr ((written.housed (.root named)).definitions found nested)

/-- Nothing stands in the message for the entries of a map, by induction on the pieces by which its
name would go on. -/
theorem Housed.outside_entry {definitions : List Definition} {entry : Definition}
    (h : Housed definitions) (names : (definitions.map (·.name)).Nodup)
    (member : entry ∈ definitions) (isEntry : entry.isMapEntry)
    : ∀ found ∈ definitions, ∀ rest, found.name ≠ entry.name ++ "." ++ rest := by
  have pieces (parts : List String) (filled : parts ≠ [])
      : ∀ found ∈ definitions, split '.' found.name ≠ split '.' entry.name ++ parts := by
    induction parts using List.reverseRecOn with
    | nil => exact absurd rfl filled
    | append_singleton front last ih =>
        intro found inside broken
        rcases h found inside with dotless | ⟨message, memberToo, noEntry, piece, dotless, named⟩
        · rw [Text.split_dotless dotless] at broken
          have lengths := congrArg List.length broken
          have some := List.length_pos_of_ne_nil (Text.split_ne_nil '.' entry.name)
          simp only [List.length_singleton, List.length_append] at lengths
          omega
        · rw [named, split_append, Text.split_dotless dotless, ← List.append_assoc] at broken
          have outer : split '.' message.name = split '.' entry.name ++ front :=
            (List.append_inj' broken rfl).1
          by_cases filled : front = []
          · rw [filled, List.append_nil] at outer
            have same : message.name = entry.name := by
              rw [← Text.intercalate_split message.name, outer, Text.intercalate_split]
            rw [List.inj_on_of_nodup_map names memberToo member same, isEntry] at noEntry
            cases noEntry
          · exact ih filled message memberToo outer
  intro found inside rest named
  refine pieces (split '.' rest) (Text.split_ne_nil _ _) found inside ?_
  rw [named, split_append]

end GrpcMock.Proto
