import GrpcMock.Proofs.Text.Ascii
import GrpcMock.Proofs.Text.Quoted
import GrpcMock.Proofs.Text.Split
import GrpcMock.Text.Blank
import Mathlib.Data.String.Basic

/-!
The lines of a text, and texts that stand on one line. No line is broken by a quoted text, nor by a
text that is cut into its words.
-/

namespace GrpcMock.Text

/-- What holds of the characters of texts and of separators holds of the texts with separators
between them, by induction on the texts. -/
theorem forall_mem_intercalate {p : Char → Prop} {separator : String} {parts : List String}
    (between : ∀ c ∈ separator.toList, p c) (each : ∀ part ∈ parts, ∀ c ∈ part.toList, p c)
    : ∀ c ∈ (separator.intercalate parts).toList, p c := by
  induction parts with
  | nil => simp
  | cons first rest ih =>
      obtain ⟨head, tail⟩ := List.forall_mem_cons.mp each
      cases rest with
      | nil => simpa using head
      | cons next rest =>
          simp only [String.intercalate_cons_cons, String.toList_append, List.forall_mem_append]
          exact ⟨⟨head, between⟩, ih tail⟩

/-- There is no white space in words, by induction on the text that they are cut from. -/
theorem not_isBlank_of_mem_wordsFrom {current text : List Char}
    (before : ∀ c ∈ current, isBlank c = false)
    : ∀ word ∈ wordsFrom current text, ∀ c ∈ word, isBlank c = false := by
  fun_induction wordsFrom current text with
  | case1 => simp
  | case2 => simpa using before
  | case3 _ _ _ _ _ ih => exact ih (by simp)
  | case4 current _ _ _ _ ih =>
      exact List.forall_mem_cons.mpr ⟨by simpa using before, ih (by simp)⟩
  | case5 _ c _ other ih =>
      exact ih (List.forall_mem_cons.mpr ⟨Bool.eq_false_iff.mpr other, before⟩)

/-- A text that is put on one line has no line break. -/
theorem newline_not_mem_singleLine (text : String) : '\n' ∉ (singleLine text).toList := by
  have other : ∀ c ∈ (singleLine text).toList, c ≠ '\n' := by
    refine forall_mem_intercalate (by simp) fun part member c inside => ?_
    obtain ⟨word, listed, rfl⟩ := List.mem_map.mp member
    rw [String.toList_ofList] at inside
    have visible := not_isBlank_of_mem_wordsFrom (by simp) word listed c inside
    rintro rfl
    revert visible
    decide
  exact fun newline => other _ newline rfl

namespace Quoted

/-- Hexadecimal digits are characters of names. -/
theorem isNameChar_hexDigit {n : Nat} (small : n < 16) : isNameChar (hexDigit n) := by
  have each : ∀ n < 16, isNameChar (hexDigit n) := by decide
  exact each n small

end Quoted

/-- A quoted text has no line break, whatever it says. -/
theorem newline_not_mem_quote (text : String) : '\n' ∉ (quote text).toList :=
  fun newline => Quoted.ne_newline_of_visible (visible_of_mem_quote newline) rfl

-----------------------------------------------------------------------------------------
-- Lines
-----------------------------------------------------------------------------------------

/-- A text without a line break. -/
def OneLine (text : String) : Prop :=
  '\n' ∉ text.toList

instance (text : String) : Decidable (OneLine text) :=
  inferInstanceAs (Decidable (_ ∉ _))

/-- Two texts on one line are one. -/
theorem OneLine.append {left right : String} (hl : OneLine left) (hr : OneLine right)
    : OneLine (left ++ right) := by
  intro newline
  rw [String.toList_append] at newline
  exact (List.mem_append.mp newline).elim hl hr

/-- So are many with a separator on one line. -/
theorem OneLine.intercalate {separator : String} {parts : List String}
    (between : OneLine separator) (each : ∀ part ∈ parts, OneLine part)
    : OneLine (separator.intercalate parts) := by
  have other {text : String} (h : OneLine text) : ∀ c ∈ text.toList, c ≠ '\n' := by
    intro c member same
    exact h (same ▸ member)
  intro newline
  exact forall_mem_intercalate (other between) (fun part member => other (each part member)) _
    newline rfl

/-- The pieces of a text between its line breaks. -/
def lines (text : String) : List String :=
  split '\n' text

/-- Such a text is its only line. -/
theorem OneLine.lines {text : String} (h : OneLine text) : lines text = [text] :=
  split_of_not_mem h

/-- A line break divides the lines before it from those after it. -/
theorem lines_append (before after : String)
    : lines (before ++ ("\n" ++ after)) = lines before ++ lines after := by
  rw [← String.append_assoc]
  exact split_separated '\n' before after

/-- Parts with line breaks between them have the lines of each, by induction on the parts. -/
theorem lines_intercalate {parts : List String} (filled : parts ≠ [])
    : lines ("\n".intercalate parts) = parts.flatMap lines := by
  induction parts with
  | nil => exact absurd rfl filled
  | cons first rest ih =>
      cases rest with
      | nil => simp
      | cons next rest =>
          rw [String.intercalate_cons_cons, String.append_assoc, lines_append,
            ih (List.cons_ne_nil _ _)]
          rfl

/-- There is one line more than there are line breaks. -/
theorem length_lines (text : String) : (lines text).length = text.toList.count '\n' + 1 := by
  rw [lines, split, List.length_map, length_splitChars]

end GrpcMock.Text
