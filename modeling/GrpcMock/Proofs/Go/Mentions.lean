import GrpcMock.Proofs.Go.Imports
import GrpcMock.Proofs.Proto.GoNames

/-!
Go text and the identifiers that it mentions. A dot stands in the text only behind the name of a
package, in a number or before the method of an enum, so no mention of a package can hide in it.
-/

namespace GrpcMock.Go

open GrpcMock.Text (isNameChar quote)

-----------------------------------------------------------------------------------------
-- Reading Go text
-----------------------------------------------------------------------------------------

/-- The signs and blanks at which a word ends. -/
def isMark (c : Char) : Bool :=
  c ∈ [' ', '\t', '\n', '(', ')', '[', ']', '\x7b', '\x7d', ',', ':', '*', '&']

/-- What words and marks are made of. There is no dot among it, no quote and no slash. -/
def isCode (c : Char) : Bool :=
  isNameChar c || isMark c || c = '-'

/-- A number with a point and digits on both sides of it. -/
inductive IsFloat : List Char → Prop
  | intro {sign whole fraction : List Char}
      (signed : sign = [] ∨ sign = ['-'])
      (full : whole ≠ [])
      (digits : ∀ c ∈ whole ++ fraction, c.isDigit)
      : IsFloat (sign ++ whole ++ '.' :: fraction)

/-- Go text that begins with a mark, and the identifiers that it mentions one after the other. Each
of them is spelled as the imports have it. Comments and quoted strings mention nothing. -/
inductive Mentions (imports : Imports) : List Char → List GoIdent → Prop
  | nil : Mentions imports [] []
  | code {mark : Char} {words text : List Char} {idents : List GoIdent}
      (opens : isMark mark)
      (plain : ∀ c ∈ words, isCode c)
      (rest : Mentions imports text idents)
      : Mentions imports (mark :: words ++ text) idents
  | identifier {mark : Char} {ident : GoIdent} {name : String} {text : List Char}
      {idents : List GoIdent}
      (opens : isMark mark)
      (word : IsWord ident.name)
      (spelled : imports.spell ident = (name, imports))
      (rest : Mentions imports text idents)
      : Mentions imports (mark :: name.toList ++ text) (ident :: idents)
  | enumPointer {mark : Char} {ident : GoIdent} {name : String} {text : List Char}
      {idents : List GoIdent}
      (opens : isMark mark)
      (word : IsWord ident.name)
      (spelled : imports.spell ident = (name, imports))
      (rest : Mentions imports text idents)
      : Mentions imports (mark :: name.toList ++ ".Enum()".toList ++ text) (ident :: idents)
  | float {mark : Char} {numeral text : List Char} {idents : List GoIdent}
      (opens : isMark mark)
      (isFloat : IsFloat numeral)
      (rest : Mentions imports text idents)
      : Mentions imports (mark :: numeral ++ text) idents
  | quoted {mark : Char} {value : String} {text : List Char} {idents : List GoIdent}
      (opens : isMark mark)
      (rest : Mentions imports text idents)
      : Mentions imports (mark :: (quote value).toList ++ text) idents
  | comment {mark : Char} {note text : List Char} {idents : List GoIdent}
      (opens : isMark mark)
      (sameLine : '\n' ∉ note)
      (rest : Mentions imports ('\n' :: text) idents)
      : Mentions imports (mark :: '/' :: '/' :: note ++ '\n' :: text) idents

namespace Mentions

variable {imports : Imports}

/-- Texts one after the other, by induction on the first. -/
theorem append {left right : List Char} {first second : List GoIdent}
    (hl : Mentions imports left first) (hr : Mentions imports right second)
    : Mentions imports (left ++ right) (first ++ second) := by
  induction hl with
  | nil => exact hr
  | code opens plain _ ih =>
      rw [List.append_assoc]
      exact .code opens plain ih
  | identifier opens word spelled _ ih =>
      rw [List.append_assoc]
      exact .identifier opens word spelled ih
  | enumPointer opens word spelled _ ih =>
      rw [List.append_assoc]
      exact .enumPointer opens word spelled ih
  | float opens isFloat _ ih =>
      rw [List.append_assoc]
      exact .float opens isFloat ih
  | quoted opens _ ih =>
      rw [List.append_assoc]
      exact .quoted opens ih
  | comment opens sameLine _ ih =>
      rw [List.append_assoc]
      exact .comment opens sameLine ih

end Mentions

-----------------------------------------------------------------------------------------
-- Words and marks
-----------------------------------------------------------------------------------------

/-- A text of words and marks. -/
def IsCode (text : String) : Prop :=
  ∀ c ∈ text.toList, isCode c

/-- Words and marks that begin with a mark. -/
def IsCloser (text : String) : Prop :=
  IsCode text ∧ text.toList.head?.any isMark

/-- Words and marks that end with a mark. -/
def IsOpener (text : String) : Prop :=
  IsCode text ∧ text.toList.getLast?.any isMark

/-- Words and marks that begin and end with a mark. -/
def IsSeparator (text : String) : Prop :=
  IsCloser text ∧ IsOpener text

instance (text : String) : Decidable (IsCode text) :=
  decidable_of_iff (text.toList.all isCode) List.all_eq_true

instance (text : String) : Decidable (IsCloser text) :=
  inferInstanceAs (Decidable (_ ∧ _))

instance (text : String) : Decidable (IsOpener text) :=
  inferInstanceAs (Decidable (_ ∧ _))

instance (text : String) : Decidable (IsSeparator text) :=
  inferInstanceAs (Decidable (_ ∧ _))

/-- A word is code. -/
theorem isCode_of_isWord {text : String} (h : IsWord text) : IsCode text := by
  intro c member
  rw [isCode, h c member]
  rfl

/-- What comes before the mark at the end. -/
theorem IsOpener.exists_last {text : String} (h : IsOpener text)
    : ∃ words last, text.toList = words ++ [last] ∧ (∀ c ∈ words, isCode c) ∧ isMark last := by
  obtain ⟨plain, ends⟩ := h
  unfold IsCode at plain
  cases final : text.toList.getLast? with
  | none =>
      rw [final] at ends
      cases ends
  | some last =>
      obtain ⟨words, chars⟩ := List.getLast?_eq_some_iff.mp final
      rw [final] at ends
      rw [chars] at plain
      exact ⟨words, last, chars, (List.forall_mem_append.mp plain).1, ends⟩

-----------------------------------------------------------------------------------------
-- Pieces of Go text
-----------------------------------------------------------------------------------------

/-- A text and what it mentions wherever it stands after a mark. -/
def Written (text : String) (imports : Imports) (idents : List GoIdent) : Prop :=
  ∀ mark, isMark mark → Mentions imports (mark :: text.toList) idents

/-- A text that begins with a mark itself, and what it mentions. -/
def Continues (text : String) (imports : Imports) (idents : List GoIdent) : Prop :=
  Mentions imports text.toList idents

/-- Texts and what they mention, wherever each of them stands after a mark. -/
inductive WrittenEach : List String → Imports → List GoIdent → Prop
  | nil {imports : Imports} : WrittenEach [] imports []
  | cons {text : String} {rest : List String} {imports : Imports} {first others : List GoIdent}
      (head : Written text imports first)
      (tail : WrittenEach rest imports others)
      : WrittenEach (text :: rest) imports (first ++ others)

variable {imports : Imports} {left right text : String} {first second idents : List GoIdent}

namespace Continues

/-- Code that begins with a mark mentions nothing. -/
theorem code (h : IsCloser text) : Continues text imports [] := by
  obtain ⟨plain, begins⟩ := h
  unfold Continues
  unfold IsCode at plain
  cases chars : text.toList with
  | nil => exact .nil
  | cons mark words =>
      rw [chars] at plain begins
      rw [← List.append_nil (mark :: words)]
      exact .code begins (List.forall_mem_cons.mp plain).2 .nil

end Continues

namespace Written

/-- Code mentions nothing. -/
theorem code (h : IsCode text) : Written text imports [] := by
  intro mark opens
  rw [← List.append_nil (mark :: text.toList)]
  exact .code opens h .nil

/-- Neither does a word. -/
theorem word (h : IsWord text) : Written text imports [] :=
  code (isCode_of_isWord h)

/-- The spelling of an identifier mentions it. -/
theorem identifier {ident : GoIdent} {name : String} (word : IsWord ident.name)
    (spelled : imports.spell ident = (name, imports))
    : Written name imports [ident] := by
  intro mark opens
  rw [← List.append_nil (mark :: name.toList)]
  exact .identifier opens word spelled .nil

/-- So does a pointer to a member of an enum, whose method is behind a dot of its own. -/
theorem enumPointer {ident : GoIdent} {name : String} (word : IsWord ident.name)
    (spelled : imports.spell ident = (name, imports))
    : Written (name ++ ".Enum()") imports [ident] := by
  intro mark opens
  rw [String.toList_append, ← List.cons_append, ← List.append_nil (mark :: name.toList ++ _)]
  exact .enumPointer opens word spelled .nil

/-- A number with a point mentions nothing. -/
theorem float {numeral : List Char} (h : IsFloat numeral)
    : Written (String.ofList numeral) imports [] := by
  intro mark opens
  rw [String.toList_ofList, ← List.append_nil (mark :: numeral)]
  exact .float opens h .nil

/-- Neither does a quoted text, whatever it says. -/
theorem quoted (value : String) : Written (quote value) imports [] := by
  intro mark opens
  rw [← List.append_nil (mark :: (quote value).toList)]
  exact .quoted opens .nil

/-- Something is written, and a text that begins with a mark goes on after it. -/
theorem append (hl : Written left imports first) (hr : Continues right imports second)
    : Written (left ++ right) imports (first ++ second) := by
  intro mark opens
  rw [String.toList_append]
  exact (hl mark opens).append hr

/-- What is followed by something without mentions mentions the same. -/
theorem followed (hl : Written left imports idents) (hr : Continues right imports [])
    : Written (left ++ right) imports idents :=
  List.append_nil idents ▸ hl.append hr

/-- So does what is followed by a mark. -/
theorem closed (h : Written left imports idents) (closer : IsCloser right)
    : Written (left ++ right) imports idents :=
  h.followed (.code closer)

/-- Words and marks that end with a mark come before what is written. -/
theorem opened (h : Written right imports idents) (opener : IsOpener left)
    : Written (left ++ right) imports idents := by
  intro mark opens
  obtain ⟨words, last, chars, plain, closes⟩ := opener.exists_last
  rw [String.toList_append, chars, List.append_assoc]
  exact .code opens plain (h last closes)

/-- What is written goes on a text after a separator. -/
theorem continued (h : Written right imports idents) (separator : IsSeparator left)
    : Continues (left ++ right) imports idents := by
  obtain ⟨⟨-, begins⟩, opener⟩ := separator
  obtain ⟨words, last, chars, plain, closes⟩ := opener.exists_last
  unfold Continues
  rw [String.toList_append, chars, List.append_assoc]
  rw [chars] at begins
  cases words with
  | nil => exact h last closes
  | cons mark words =>
      exact .code begins (List.forall_mem_cons.mp plain).2 (h last closes)

/-- A comment ends with its line. -/
theorem comment {note rest : String} (sameLine : '\n' ∉ note.toList)
    (h : Written rest imports idents)
    : Written ("//" ++ note ++ ("\n" ++ rest)) imports idents := by
  intro mark opens
  have line : ("//" ++ note ++ ("\n" ++ rest)).toList
      = '/' :: '/' :: note.toList ++ '\n' :: rest.toList := by
    simp only [String.toList_append]
    rfl
  rw [line]
  exact .comment opens sameLine (h '\n' rfl)

end Written

namespace WrittenEach

variable {parts more : List String} {separator : String}

/-- A single text mentions what it does. -/
theorem singleton (h : Written text imports idents) : WrittenEach [text] imports idents :=
  List.append_nil idents ▸ .cons h .nil

/-- Words mention nothing, however many there are. -/
theorem words (h : ∀ part ∈ parts, IsWord part) : WrittenEach parts imports [] := by
  induction parts with
  | nil => exact .nil
  | cons text rest ih =>
      obtain ⟨head, tail⟩ := List.forall_mem_cons.mp h
      exact .cons (.word head) (ih tail)

/-- Texts after other texts, by induction on the first ones. -/
theorem append (hl : WrittenEach parts imports first) (hr : WrittenEach more imports second)
    : WrittenEach (parts ++ more) imports (first ++ second) := by
  induction hl with
  | nil => exact hr
  | cons head _ ih =>
      rw [List.append_assoc]
      exact .cons head (ih hr)

/-- Code after some texts adds no mention. -/
theorem ended (h : WrittenEach parts imports idents) (code : IsCode text)
    : WrittenEach (parts ++ [text]) imports idents :=
  List.append_nil idents ▸ h.append (singleton (.code code))

/-- The texts with separators between them, by induction on the texts. -/
theorem intercalate (h : WrittenEach parts imports idents) (between : IsSeparator separator)
    : Written (separator.intercalate parts) imports idents := by
  induction h with
  | nil =>
      rw [String.intercalate_nil]
      exact .code (by decide)
  | @cons text rest _ _ _ head tail ih =>
      cases rest with
      | nil =>
          cases tail
          rw [List.append_nil]
          exact head
      | cons next rest =>
          rw [String.intercalate_cons_cons, String.append_assoc]
          exact head.append (ih.continued between)

end WrittenEach

end GrpcMock.Go
