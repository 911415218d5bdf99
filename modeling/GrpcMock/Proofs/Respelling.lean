import GrpcMock.Proofs.Naming
import Mathlib.Logic.Relation

/-!
Names that become one in Go. They can be turned into each other step by step, each of which spells
the beginning of one word in another way.
-/

namespace GrpcMock.Naming

open GrpcMock.Text (isNameChar isNameChar_small)

-----------------------------------------------------------------------------------------
-- Respelling
-----------------------------------------------------------------------------------------

/-- Whether nothing or a dot stands right before what follows a part of a name. -/
def atStart (boundary : Bool) : List Char → Bool
  | [] => boundary
  | c :: rest => atStart (c = '.') rest

/-- A text with its first letter in upper case. -/
def capitalized : List Char → List Char
  | [] => []
  | c :: rest => c.toUpper :: rest

/-- A step from a name to one that is spelled in another way. -/
inductive Respelling : List Char → List Char → Prop
  /-- A name may begin with a small letter. -/
  | first {c : Char} {rest : List Char} (lower : c.isLower)
    : Respelling (c :: rest) (c.toUpper :: rest)
  /-- An underscore that leads an identifier is an X, after which a word begins. -/
  | leading {before rest : List Char} (start : atStart true before)
    : Respelling (before ++ '_' :: rest) (before ++ 'X' :: capitalized rest)
  /-- Other underscores tell that a small letter begins a word. -/
  | underscore {before rest : List Char} {c : Char} (inside : ¬atStart true before)
      (lower : c.isLower)
    : Respelling (before ++ '_' :: c :: rest) (before ++ c.toUpper :: rest)
  /-- So do dots. -/
  | dot {before rest : List Char} {c : Char} (lower : c.isLower)
    : Respelling (before ++ '.' :: c :: rest) (before ++ c.toUpper :: rest)
  /-- A dot before anything else is an underscore. -/
  | otherDot {before rest : List Char} (inside : ¬atStart true before) (other : ¬startsLower rest)
      (bare : rest.head? ≠ some '_')
    : Respelling (before ++ '.' :: rest) (before ++ '_' :: rest)
  /-- A word begins after each digit. -/
  | digit {before rest : List Char} {d c : Char} (digit : d.isDigit) (lower : c.isLower)
    : Respelling (before ++ d :: c :: rest) (before ++ d :: c.toUpper :: rest)

/-- Names that can be turned into each other. -/
def Respelled (left right : List Char) : Prop :=
  Relation.EqvGen Respelling left right

-----------------------------------------------------------------------------------------
-- Characters
-----------------------------------------------------------------------------------------

variable {boundary inWord : Bool} {c : Char} {rest : List Char}

/-- The characters that make a difference to camel case. -/
inductive CharSort : Char → Prop
  | lower {c : Char} (lower : c.isLower) : CharSort c
  | dot : CharSort '.'
  | underscore : CharSort '_'
  | digit {c : Char} (digit : c.isDigit) : CharSort c
  | other {c : Char} (small : ¬c.isLower) (digit : ¬c.isDigit) (dot : c ≠ '.') (bare : c ≠ '_')
    : CharSort c

/-- Every character is of one of the sorts that camel case tells apart. -/
theorem charSort (c : Char) : CharSort c := by
  by_cases lower : c.isLower
  · exact .lower lower
  by_cases dot : c = '.'
  · exact dot ▸ .dot
  by_cases bare : c = '_'
  · exact bare ▸ .underscore
  by_cases digit : c.isDigit
  · exact .digit digit
  · exact .other lower digit dot bare

/-- The small letters are those of ASCII. -/
theorem isLower_iff {c : Char} : c.isLower ↔ 97 ≤ c.toNat ∧ c.toNat ≤ 122 := by
  have range : c.isLower = (decide (97 ≤ c.val) && decide (c.val ≤ 122)) := rfl
  simp [range, UInt32.le_iff_toNat_le]

/-- So a small letter is an ASCII character. -/
theorem isLower_small {c : Char} (lower : c.isLower) : c.toNat < 128 :=
  Nat.lt_of_le_of_lt (isLower_iff.mp lower).2 (by decide)

/-- A character that is no small letter is its own upper case. -/
theorem toUpper_eq_self (other : ¬c.isLower) : c.toUpper = c := by
  have outside : ¬(97 ≤ c.val ∧ c.val ≤ 122) := by
    simpa [UInt32.le_iff_toNat_le] using isLower_iff.not.mp other
  exact dif_neg outside

/-- A small letter in upper case is neither a small letter nor anything that stands between words.
-/
theorem toUpper_other (lower : c.isLower)
    : ¬c.toUpper.isLower ∧ ¬c.toUpper.isDigit ∧ c.toUpper ≠ '.' ∧ c.toUpper ≠ '_' :=
  Text.ascii_forall
    (p := fun c =>
      c.isLower
      → ¬c.toUpper.isLower ∧ ¬c.toUpper.isDigit ∧ c.toUpper ≠ '.' ∧ c.toUpper ≠ '_')
    (by decide) (isLower_small lower) lower

/-- A small letter is nothing that stands between words. -/
theorem isLower_other (lower : c.isLower) : ¬c.isDigit ∧ c ≠ '.' ∧ c ≠ '_' :=
  Text.ascii_forall (p := fun c => c.isLower → ¬c.isDigit ∧ c ≠ '.' ∧ c ≠ '_') (by decide)
    (isLower_small lower) lower

/-- Neither is a digit, and it is no small letter. -/
theorem isDigit_other (digit : c.isDigit) : ¬c.isLower ∧ c ≠ '.' ∧ c ≠ '_' := by
  have small : c.toNat < 128 := isNameChar_small (by simp [isNameChar, Char.isAlphanum, digit])
  exact Text.ascii_forall (p := fun c => c.isDigit → ¬c.isLower ∧ c ≠ '.' ∧ c ≠ '_') (by decide)
    small digit

-----------------------------------------------------------------------------------------
-- Camel case, sort by sort
-----------------------------------------------------------------------------------------

/-- A small letter within a word stays as it is. -/
theorem camelCase_inside (lower : c.isLower)
    : camelCase boundary true (c :: rest) = c :: camelCase false true rest := by
  rw [camelCase, if_pos (by simp [lower])]

/-- A dot goes if a small letter follows, and else becomes an underscore. -/
theorem camelCase_dot
    : camelCase boundary inWord ('.' :: rest)
      = (if startsLower rest then [] else ['_']) ++ camelCase true false rest := by
  have small : '.'.isLower = false := by decide
  rw [camelCase, small, Bool.and_false, if_neg Bool.false_ne_true, if_pos rfl]
  split <;> rfl

/-- An underscore at the beginning becomes an X. -/
theorem camelCase_leading
    : camelCase true inWord ('_' :: rest) = 'X' :: camelCase false false rest := by
  have small : '_'.isLower = false := by decide
  simp [camelCase, small]

/-- An underscore further on goes if a small letter follows, and else stays. -/
theorem camelCase_underscore
    : camelCase false inWord ('_' :: rest)
      = if startsLower rest then camelCase false false rest
        else '_' :: camelCase false true rest := by
  have small : '_'.isLower = false := by decide
  have digit : '_'.isDigit = false := by decide
  have upper : '_'.toUpper = '_' := by decide
  simp [camelCase, small, digit, upper]

/-- A digit stays, and a word begins after it. -/
theorem camelCase_digit (digit : c.isDigit)
    : camelCase boundary inWord (c :: rest) = c :: camelCase false false rest := by
  obtain ⟨small, dot, bare⟩ := isDigit_other digit
  simp [camelCase, small, dot, bare, digit]

/-- A letter that begins a word becomes a capital, and what is no letter stays as it is. -/
theorem camelCase_wordStart (word : ¬inWord ∨ ¬c.isLower) (digit : ¬c.isDigit) (dot : c ≠ '.')
    (bare : c ≠ '_')
    : camelCase boundary inWord (c :: rest) = c.toUpper :: camelCase false true rest := by
  have outside : (inWord && c.isLower) = false := by
    rcases word with word | small
    · simp [word]
    · simp [small]
  simp [camelCase, outside, digit, dot, bare]

/-- A small letter begins a word as its capital does. -/
theorem camelCase_small (lower : c.isLower)
    : camelCase boundary false (c :: rest) = c.toUpper :: camelCase false true rest :=
  have ⟨digit, dot, bare⟩ := isLower_other lower
  camelCase_wordStart (.inl Bool.false_ne_true) digit dot bare

/-- The capital of a small letter stays as it is, and a word goes on after it. -/
theorem camelCase_capital (lower : c.isLower)
    : camelCase boundary inWord (c.toUpper :: rest) = c.toUpper :: camelCase false true rest := by
  obtain ⟨small, digit, dot, bare⟩ := toUpper_other lower
  rw [camelCase_wordStart (.inr small) digit dot bare, toUpper_eq_self small]

/-- Whether a word goes on shows only if a small letter follows. -/
theorem camelCase_inWord (other : ¬startsLower rest) (inWord otherwise : Bool)
    : camelCase boundary inWord rest = camelCase boundary otherwise rest := by
  cases rest with
  | nil => rfl
  | cons c rest =>
      have small : ¬c.isLower := by simpa [startsLower] using other
      simp [camelCase, small]

/-- Whether a name begins shows only if an underscore follows. -/
theorem camelCase_boundary (bare : rest.head? ≠ some '_') (boundary otherwise : Bool)
    : camelCase boundary inWord rest = camelCase otherwise inWord rest := by
  cases rest with
  | nil => rfl
  | cons c rest =>
      have differs : c ≠ '_' := by simpa using bare
      simp [camelCase, differs]

/-- A word that begins with a capital goes on as one that begins with a small letter. -/
theorem camelCase_capitalized
    : camelCase false true (capitalized rest) = camelCase false false rest := by
  cases rest with
  | nil => rfl
  | cons c rest =>
      rw [capitalized]
      by_cases lower : c.isLower
      · rw [camelCase_capital lower, camelCase_small lower]
      · rw [toUpper_eq_self lower]
        exact camelCase_inWord (by simpa [startsLower] using lower) ..

-----------------------------------------------------------------------------------------
-- Names that are respelled
-----------------------------------------------------------------------------------------

/-- What is written for a character, and whether a word goes on after it, depends on what follows
only through whether a small letter does. -/
theorem camelCase_cons (boundary inWord : Bool) (c : Char) (ahead : Bool)
    : ∃ written goesOn,
        ∀ rest,
          startsLower rest = ahead
          → camelCase boundary inWord (c :: rest) = written ++ camelCase (c = '.') goesOn rest := by
  cases charSort c with
  | lower lower =>
      rw [decide_eq_false (isLower_other lower).2.1]
      cases inWord with
      | true => exact ⟨[c], true, fun rest _ => camelCase_inside lower⟩
      | false => exact ⟨[c.toUpper], true, fun rest _ => camelCase_small lower⟩
  | dot =>
      refine ⟨if ahead then [] else ['_'], false, ?_⟩
      rintro rest rfl
      exact camelCase_dot
  | underscore =>
      cases boundary with
      | true => exact ⟨['X'], false, fun rest _ => camelCase_leading⟩
      | false =>
          cases ahead with
          | true =>
              refine ⟨[], false, fun rest lower => ?_⟩
              rw [camelCase_underscore, if_pos lower]
              rfl
          | false =>
              refine ⟨['_'], true, fun rest other => ?_⟩
              rw [camelCase_underscore, if_neg (by simp [other])]
              rfl
  | digit digit =>
      rw [decide_eq_false (isDigit_other digit).2.1]
      exact ⟨[c], false, fun rest _ => camelCase_digit digit⟩
  | other small digit dot bare =>
      rw [decide_eq_false dot]
      exact ⟨[c.toUpper], true, fun rest _ => camelCase_wordStart (.inr small) digit dot bare⟩

/-- Whether a text begins with a small letter does not depend on its end, as long as that begins
alike. -/
theorem startsLower_append {before left right : List Char}
    (ahead : startsLower left = startsLower right)
    : startsLower (before ++ left) = startsLower (before ++ right) := by
  cases before with
  | nil => exact ahead
  | cons c rest => rfl

/-- What comes after a part of a name can be put in place of what comes out the same. By induction
on the part. -/
theorem camelCase_append {left right : List Char} (ahead : startsLower left = startsLower right)
    (before : List Char) (boundary inWord : Bool)
    (same : ∀ inWord,
      camelCase (atStart boundary before) inWord left
      = camelCase (atStart boundary before) inWord right)
    : camelCase boundary inWord (before ++ left) = camelCase boundary inWord (before ++ right) := by
  induction before generalizing boundary inWord with
  | nil => exact same inWord
  | cons c rest ih =>
      obtain ⟨written, goesOn, both⟩ :=
        camelCase_cons boundary inWord c (startsLower (rest ++ left))
      rw [List.cons_append, List.cons_append, both _ rfl, both _ (startsLower_append ahead).symm,
        ih _ goesOn same]

/-- A step does not change what a name is called in Go. -/
theorem Respelling.camelCase_eq {left right : List Char} (step : Respelling left right)
    : camelCase true false left = camelCase true false right := by
  have capital {c : Char} {rest : List Char} (lower : c.isLower)
      : startsLower (c.toUpper :: rest) = false :=
    Bool.eq_false_iff.mpr (toUpper_other lower).1
  cases step with
  | first lower => rw [camelCase_small lower, camelCase_capital lower]
  | @leading before rest start =>
      have ahead : startsLower ('_' :: rest) = startsLower ('X' :: capitalized rest) := by
        simp [startsLower]
      refine camelCase_append ahead before true false fun inWord => ?_
      rw [start, camelCase_leading, ← camelCase_capitalized]
      exact (camelCase_wordStart (c := 'X') (.inr (by decide)) (by decide) (by decide)
        (by decide)).symm
  | @underscore before rest c inside lower =>
      have ahead : startsLower ('_' :: c :: rest) = startsLower (c.toUpper :: rest) := by
        rw [capital lower]
        rfl
      refine camelCase_append ahead before true false fun inWord => ?_
      have begins : startsLower (c :: rest) := lower
      rw [Bool.eq_false_iff.mpr inside, camelCase_underscore, if_pos begins,
        camelCase_small lower, camelCase_capital lower]
  | @dot before rest c lower =>
      have ahead : startsLower ('.' :: c :: rest) = startsLower (c.toUpper :: rest) := by
        rw [capital lower]
        rfl
      refine camelCase_append ahead before true false fun inWord => ?_
      have begins : startsLower (c :: rest) := lower
      rw [camelCase_dot, if_pos begins, List.nil_append, camelCase_small lower,
        camelCase_capital lower]
  | @otherDot before rest inside other bare =>
      have ahead : startsLower ('.' :: rest) = startsLower ('_' :: rest) := rfl
      refine camelCase_append ahead before true false fun inWord => ?_
      rw [Bool.eq_false_iff.mpr inside, camelCase_dot, if_neg other, camelCase_underscore,
        if_neg other, camelCase_boundary bare true false, camelCase_inWord other false true]
      rfl
  | @digit before rest d c digit lower =>
      have ahead : startsLower (d :: c :: rest) = startsLower (d :: c.toUpper :: rest) := rfl
      refine camelCase_append ahead before true false fun inWord => ?_
      rw [camelCase_digit digit, camelCase_digit digit, camelCase_small lower,
        camelCase_capital lower]

namespace Respelled

variable {left middle right : List Char}

/-- A step of respelling is a respelling. -/
theorem of_step (step : Respelling left right) : Respelled left right :=
  .rel _ _ step

/-- Two respellings in a row are one. -/
theorem trans (hl : Respelled left middle) (hr : Respelled middle right) : Respelled left right :=
  Relation.EqvGen.trans _ _ _ hl hr

/-- Names that can be turned into each other are the same in camel case, by induction on the
steps. -/
theorem camelCase_eq (h : Respelled left right)
    : camelCase true false left = camelCase true false right := by
  induction h with
  | rel _ _ step => exact step.camelCase_eq
  | refl => rfl
  | symm _ _ _ ih => exact ih.symm
  | trans _ _ _ _ _ ih ihToo => exact ih.trans ihToo

end Respelled

/-- Whether something stands at the beginning is told by the last character before it. -/
theorem atStart_append {before : List Char} : atStart boundary (before ++ [c]) = (c = '.') := by
  induction before generalizing boundary with
  | nil => simp [atStart]
  | cons first rest ih => exact ih

/-- What follows anything but a dot does not stand at the beginning. -/
theorem not_atStart_append {before : List Char} (other : c ≠ '.')
    : ¬atStart true (before ++ [c]) := by
  simpa [atStart_append] using other

/-- What comes after a part of a name can be spelled as in Go: where a word goes on, where one
begins, and after a dot. -/
structure Completes (rest : List Char) : Prop where
  inWord
    : ∀ before, ¬atStart true before
      → Respelled (before ++ rest) (before ++ camelCase false true rest)
  wordStart
    : ∀ before, ¬atStart true before
      → Respelled (before ++ capitalized rest) (before ++ camelCase false false rest)
  afterDot
    : ∀ before, ¬atStart true before
      → Respelled (before ++ '.' :: rest) (before ++ camelCase false true ('.' :: rest))

/-- A word begins after a digit, however it is spelled. -/
theorem respelled_digit (digit : c.isDigit) (before rest : List Char)
    : Respelled (before ++ c :: rest) (before ++ c :: capitalized rest) := by
  cases rest with
  | nil => exact .refl _
  | cons first rest =>
      by_cases lower : first.isLower
      · exact .of_step (.digit digit lower)
      · rw [capitalized, toUpper_eq_self lower]
        exact .refl _

/-- A character other than a dot or an underscore is spelled as in Go, and what comes after it. -/
theorem Completes.next (h : Completes rest) (dot : c ≠ '.') (bare : c ≠ '_') (before : List Char)
    : Respelled (before ++ c :: rest) (before ++ camelCase false true (c :: rest)) := by
  have inside : ¬atStart true (before ++ [c]) := not_atStart_append dot
  cases charSort c with
  | lower lower =>
      rw [camelCase_inside lower, List.append_cons, List.append_cons before c (camelCase ..)]
      exact h.inWord _ inside
  | dot => exact absurd rfl dot
  | underscore => exact absurd rfl bare
  | digit digit =>
      refine (respelled_digit digit before rest).trans ?_
      rw [camelCase_digit digit, List.append_cons, List.append_cons before c (camelCase ..)]
      exact h.wordStart _ inside
  | other small digit _ _ =>
      rw [camelCase_wordStart (.inr small) digit dot bare, toUpper_eq_self small,
        List.append_cons, List.append_cons before c (camelCase ..)]
      exact h.inWord _ inside

/-- A capital is spelled as in Go. -/
theorem Completes.capital (h : Completes rest) (lower : c.isLower) (before : List Char)
    : Respelled (before ++ c.toUpper :: rest) (before ++ camelCase boundary false (c :: rest)) := by
  have inside : ¬atStart true (before ++ [c.toUpper]) :=
    not_atStart_append (toUpper_other lower).2.2.1
  rw [camelCase_small lower, List.append_cons, List.append_cons before _ (camelCase ..)]
  exact h.inWord _ inside

/-- An underscore is spelled as in Go, and what comes after it. -/
theorem Completes.underscore (h : Completes rest) {before : List Char}
    (inside : ¬atStart true before)
    : Respelled (before ++ '_' :: rest) (before ++ camelCase false true ('_' :: rest)) := by
  rw [camelCase_underscore]
  split
  · rename_i lower
    cases rest with
    | nil => cases lower
    | cons first rest =>
        exact (Respelled.of_step (.underscore inside lower)).trans (h.wordStart before inside)
  · rw [List.append_cons, List.append_cons before '_' (camelCase ..)]
    exact h.inWord (before ++ ['_']) (not_atStart_append (by decide))

/-- After a dot, an underscore leads an identifier. -/
theorem Completes.dotUnderscore (h : Completes rest) {before : List Char}
    (inside : ¬atStart true before)
    : Respelled (before ++ '.' :: '_' :: rest)
        (before ++ (['_'] ++ camelCase true false ('_' :: rest))) := by
  have leads : atStart true (before ++ ['.']) := by simp [atStart_append]
  have letter : Respelled ((before ++ ['.']) ++ '_' :: rest) _ := .of_step (.leading leads)
  have dot
      : Respelled (before ++ '.' :: 'X' :: capitalized rest)
          (before ++ '_' :: 'X' :: capitalized rest) :=
    .of_step (.otherDot inside (by simp [startsLower]) (by simp))
  have inner : ¬atStart true ((before ++ ['_']) ++ ['X']) := not_atStart_append (by decide)
  have word := h.wordStart _ inner
  simp only [List.append_assoc, List.singleton_append] at letter word
  rw [camelCase_leading]
  exact letter.trans (dot.trans word)

/-- Whatever comes after a part of a name can be spelled as in Go, by induction on it. -/
theorem completes (rest : List Char) : Completes rest := by
  induction rest with
  | nil =>
      have last (before : List Char) (inside : ¬atStart true before)
          : Respelled (before ++ ['.']) (before ++ ['_']) :=
        .of_step (.otherDot inside (by decide) (by decide))
      exact ⟨fun _ _ => .refl _, fun _ _ => .refl _, last⟩
  | cons c rest ih =>
      have inWord (before : List Char) (inside : ¬atStart true before)
          : Respelled (before ++ c :: rest) (before ++ camelCase false true (c :: rest)) := by
        by_cases dot : c = '.'
        · exact dot ▸ ih.afterDot before inside
        by_cases bare : c = '_'
        · exact bare ▸ ih.underscore inside
        · exact ih.next dot bare before
      refine ⟨inWord, fun before inside => ?_, fun before inside => ?_⟩
      · by_cases lower : c.isLower
        · exact ih.capital lower before
        · have other : ¬startsLower (c :: rest) := lower
          rw [capitalized, toUpper_eq_self lower, camelCase_inWord other false true]
          exact inWord before inside
      · rw [camelCase_dot]
        by_cases lower : c.isLower
        · have begins : startsLower (c :: rest) := lower
          rw [if_pos begins]
          exact (Respelled.of_step (.dot lower)).trans (ih.capital lower before)
        have other : ¬startsLower (c :: rest) := lower
        rw [if_neg other]
        by_cases bare : c = '_'
        · exact bare ▸ ih.dotUnderscore inside
        · have apart : (c :: rest).head? ≠ some '_' := by simpa using bare
          rw [camelCase_boundary apart true false, camelCase_inWord other false true]
          refine (Respelled.of_step (.otherDot inside other apart)).trans ?_
          rw [List.append_cons, ← List.append_assoc]
          exact inWord (before ++ ['_']) (not_atStart_append (by decide))

/-- A name can be spelled as in Go. -/
theorem respelled_camelCase {name : List Char} (inner : name.head? ≠ some '.')
    : Respelled name (camelCase true false name) := by
  cases name with
  | nil => exact .refl _
  | cons c rest =>
      have dot : c ≠ '.' := by simpa using inner
      have after := completes rest
      by_cases bare : c = '_'
      · rw [bare, camelCase_leading]
        have start : Respelled ([] ++ '_' :: rest) ([] ++ 'X' :: capitalized rest) :=
          .of_step (.leading rfl)
        exact start.trans (after.wordStart ['X'] (by decide))
      by_cases lower : c.isLower
      · exact (Respelled.of_step (.first lower)).trans (after.capital lower [])
      · have other : ¬startsLower (c :: rest) := lower
        have apart : (c :: rest).head? ≠ some '_' := by simpa using bare
        rw [camelCase_boundary apart true false, camelCase_inWord other false true]
        exact after.next dot bare []

/-- Names are called the same in Go just if they can be turned into each other. -/
theorem camelCase_eq_iff {left right : List Char} (hl : left.head? ≠ some '.')
    (hr : right.head? ≠ some '.')
    : camelCase true false left = camelCase true false right ↔ Respelled left right := by
  refine ⟨fun same => ?_, Respelled.camelCase_eq⟩
  have back := Relation.EqvGen.symm _ _ (respelled_camelCase hr)
  exact (respelled_camelCase hl).trans (same ▸ back)

/-- In ASCII names with or without dots, that is what it means to be called the same in Go. -/
theorem goCamelCase_eq_iff {left right : String}
    (hl : ∀ c ∈ left.toList, c ≠ '.' → isNameChar c) (innerLeft : left.toList.head? ≠ some '.')
    (hr : ∀ c ∈ right.toList, c ≠ '.' → isNameChar c) (innerRight : right.toList.head? ≠ some '.')
    : goCamelCase left = goCamelCase right ↔ Respelled left.toList right.toList := by
  rw [← String.toList_inj, toList_goCamelCase hl, toList_goCamelCase hr,
    camelCase_eq_iff innerLeft innerRight]

end GrpcMock.Naming
