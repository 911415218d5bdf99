import GrpcMock.Text.Split
import Mathlib.Data.List.Nodup
import Mathlib.Data.List.TakeWhile

/-!
Cutting texts at dots. A text is its pieces with dots between them again, and the pieces of a path
are those of its two halves wherever it is broken at a dot.
-/

namespace GrpcMock.Text

/-- There is at least one part. -/
theorem splitChars_ne_nil (separator : Char) (text : List Char)
    : splitChars separator text ≠ [] := by
  cases text with
  | nil => exact List.cons_ne_nil _ _
  | cons c rest =>
      rw [splitChars]
      split
      · exact List.cons_ne_nil _ _
      · split <;> exact List.cons_ne_nil _ _

/-- A text is cut apart on both sides of a separator, by induction on what stands before it. -/
theorem splitChars_append (separator : Char) (before after : List Char)
    : splitChars separator (before ++ separator :: after)
      = splitChars separator before ++ splitChars separator after := by
  induction before with
  | nil => simp [splitChars]
  | cons c rest ih =>
      simp only [List.cons_append, splitChars, ih]
      split
      · rfl
      · cases pieces : splitChars separator rest with
        | nil => exact absurd pieces (splitChars_ne_nil separator rest)
        | cons first more => rfl

/-- Without separators there is one part. -/
theorem splitChars_of_not_mem {separator : Char} {text : List Char} (h : separator ∉ text)
    : splitChars separator text = [text] := by
  induction text with
  | nil => rfl
  | cons c rest ih =>
      rw [List.mem_cons, not_or] at h
      rw [splitChars, if_neg (Ne.symm h.1), ih h.2]

/-- There is one piece more than there are separators. -/
theorem length_splitChars (separator : Char) (text : List Char)
    : (splitChars separator text).length = text.count separator + 1 := by
  induction text with
  | nil => rfl
  | cons c rest ih =>
      rw [splitChars]
      split
      · rename_i same
        rw [List.length_cons, ih, same, List.count_cons_self]
      · rename_i other
        rw [List.count_cons_of_ne other, ← ih]
        cases pieces : splitChars separator rest with
        | nil => exact absurd pieces (splitChars_ne_nil separator rest)
        | cons first more => rfl

/-- What is no separator stands in one of the pieces. -/
theorem mem_splitChars {separator c : Char} {text : List Char} (member : c ∈ text)
    : c = separator ∨ ∃ part ∈ splitChars separator text, c ∈ part := by
  induction text with
  | nil => cases member
  | cons first rest ih =>
      rw [splitChars]
      split
      · rename_i same
        rcases List.mem_cons.mp member with rfl | later
        · exact .inl same
        · refine (ih later).imp_right fun ⟨part, listed, inside⟩ => ?_
          exact ⟨part, List.mem_cons_of_mem _ listed, inside⟩
      · cases pieces : splitChars separator rest with
        | nil => exact absurd pieces (splitChars_ne_nil separator rest)
        | cons piece more =>
            rcases List.mem_cons.mp member with rfl | later
            · exact .inr ⟨_, List.mem_cons_self .., List.mem_cons_self ..⟩
            · refine (ih later).imp_right fun ⟨part, listed, inside⟩ => ?_
              rw [pieces] at listed
              rcases List.mem_cons.mp listed with rfl | listed
              · exact ⟨_, List.mem_cons_self .., List.mem_cons_of_mem _ inside⟩
              · exact ⟨part, List.mem_cons_of_mem _ listed, inside⟩

/-- Joining the pieces with separators undoes the cutting. -/
theorem intercalate_splitChars (separator : Char) (text : List Char)
    : [separator].intercalate (splitChars separator text) = text := by
  induction text with
  | nil => rfl
  | cons c rest ih =>
      rw [splitChars]
      split
      · rename_i same
        rw [List.intercalate_cons_of_ne_nil (splitChars_ne_nil separator rest), ih, same]
        rfl
      · cases pieces : splitChars separator rest with
        | nil => exact absurd pieces (splitChars_ne_nil separator rest)
        | cons first more => rw [List.intercalate_cons_cons_left, ← pieces, ih]

/-- The same goes for a text: it has at least one part. -/
theorem split_ne_nil (separator : Char) (text : String) : split separator text ≠ [] :=
  fun none => splitChars_ne_nil separator text.toList (List.map_eq_nil_iff.mp none)

/-- What is put together around a separator falls apart there. -/
theorem split_separated (separator : Char) (before after : String)
    : split separator (before ++ String.singleton separator ++ after)
      = split separator before ++ split separator after := by
  have between
      : (before ++ String.singleton separator ++ after).toList
        = before.toList ++ separator :: after.toList := by
    simp
  rw [split, between, splitChars_append, List.map_append]
  rfl

/-- The pieces of a path are those before a dot and those after it. -/
theorem split_append (before after : String)
    : split '.' (before ++ "." ++ after) = split '.' before ++ split '.' after :=
  split_separated '.' before after

/-- A text without separators is its only part. -/
theorem split_of_not_mem {separator : Char} {text : String} (h : separator ∉ text.toList)
    : split separator text = [text] := by
  rw [split, splitChars_of_not_mem h, List.map_singleton, String.ofList_toList]

/-- So is a name without dots. -/
theorem split_dotless {text : String} (h : '.' ∉ text.toList) : split '.' text = [text] :=
  split_of_not_mem h

/-- Parts put together with dots are the name that fell apart into them. -/
theorem intercalate_split (text : String) : ".".intercalate (split '.' text) = text := by
  have pieces : (split '.' text).map String.toList = splitChars '.' text.toList := by
    rw [split, List.map_map]
    exact List.map_id'' (fun _ => String.toList_ofList) _
  apply String.toList_inj.mp
  rw [String.toList_intercalate, pieces]
  exact intercalate_splitChars '.' text.toList

/-- Parts without a dot are the pieces of what they are joined to, by induction on the parts. -/
theorem split_intercalate {parts : List String} (filled : parts ≠ [])
    (dotless : ∀ part ∈ parts, '.' ∉ part.toList)
    : split '.' (".".intercalate parts) = parts := by
  induction parts with
  | nil => exact absurd rfl filled
  | cons first rest ih =>
      rw [List.forall_mem_cons] at dotless
      by_cases last : rest = []
      · rw [last, String.intercalate_singleton, split_dotless dotless.1]
      · rw [String.intercalate_cons_of_ne_nil last, split_append,
          split_dotless dotless.1, ih last dotless.2]
        rfl

/-- The first piece is empty just if no character comes before the first dot or the end. -/
theorem head?_split_eq_empty {text : String}
    : (split '.' text).head? = some "" ↔ text = "" ∨ text.toList.head? = some '.' := by
  have characters : text = "" ↔ text.toList = [] := by simp
  rw [characters, split]
  cases text.toList with
  | nil => simp [splitChars]
  | cons first rest =>
      rw [splitChars]
      split
      · rename_i same
        simp [same]
      · rename_i other
        cases splitChars '.' rest <;> simp [other]

/-- Joined parts are nothing just if there is no part, or one empty part. -/
theorem intercalate_eq_empty {parts : List String}
    : ".".intercalate parts = "" ↔ parts = [] ∨ parts = [""] := by
  cases parts with
  | nil => simp
  | cons first rest =>
      cases rest with
      | nil => simp
      | cons _ _ => simp [String.intercalate_cons_cons]

/-- Nothing comes before a separator that there is not. -/
theorem beforeLast?_of_not_mem {separator : Char} {text : String} (h : separator ∉ text.toList)
    : beforeLast? separator text = none := by
  have others : text.toList.reverse.dropWhile (· != separator) = [] := by
    apply List.dropWhile_eq_nil_iff.mpr
    intro c member
    rw [bne_iff_ne]
    rintro rfl
    exact h (List.mem_reverse.mp member)
  rw [beforeLast?, others]

/-- Before the last separator stands what something without one was put behind. -/
theorem beforeLast?_append {separator : Char} {last : List Char} (before : List Char)
    (h : separator ∉ last)
    : beforeLast? separator (String.ofList (before ++ separator :: last))
      = some (String.ofList before) := by
  have others : ∀ c ∈ last.reverse, c != separator := by
    intro c member
    rw [bne_iff_ne]
    rintro rfl
    exact h (List.mem_reverse.mp member)
  rw [beforeLast?, String.toList_ofList, List.reverse_append, List.reverse_cons,
    List.append_assoc, List.dropWhile_append_of_pos others]
  simp

/-- A beginning can be taken off again. -/
theorem stripStart?_append (start rest : String)
    : stripStart? start (start ++ rest) = some rest := by
  rw [stripStart?, String.toList_append, List.isPrefixOf?_eq_some_iff_append_eq.mpr rfl,
    Option.map_some, String.ofList_toList]

/-- A text does not have a beginning that begins with another character. -/
theorem stripStart?_eq_none {start text : String} {c : Char} (begins : start.toList.head? = some c)
    (differs : text.toList.head? ≠ some c)
    : stripStart? start text = none := by
  obtain ⟨rest, chars⟩ := List.head?_eq_some_iff.mp begins
  rw [stripStart?, chars, Option.map_eq_none_iff]
  cases other : text.toList with
  | nil => rfl
  | cons first more =>
      rw [other] at differs
      have apart : c ≠ first := by
        rintro rfl
        exact differs rfl
      simp [List.isPrefixOf?, apart]

/-- What is left without its start is the text behind it. -/
theorem eq_append_of_stripStart? {start text rest : String}
    (h : stripStart? start text = some rest)
    : text = start ++ rest := by
  obtain ⟨chars, found, rfl⟩ := Option.map_eq_some_iff.mp h
  apply String.toList_inj.mp
  rw [String.toList_append, String.toList_ofList]
  exact (List.isPrefixOf?_eq_some_iff_append_eq.mp found).symm

end GrpcMock.Text
