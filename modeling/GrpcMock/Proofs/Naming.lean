import GrpcMock.Naming
import GrpcMock.Proofs.Text.Ascii

/-!
Names that are derived from other names. Go names hold no dots, so what is named after a field is in
one piece; what is derived from an ASCII name is an ASCII name as well, which begins with a capital
in Go, and a JSON name is what is left of a name without its underscores.
-/

namespace GrpcMock.Naming

open GrpcMock.Text
  (isNameChar isNameChar_small isNameChar_toUpper isNameStart upper utf8Bytes)

-----------------------------------------------------------------------------------------
-- Go names
-----------------------------------------------------------------------------------------

/-- Nothing but a dot has a dot for its upper case. -/
theorem toUpper_ne_dot {c : Char} (other : c ≠ '.') : c.toUpper ≠ '.' := by
  unfold Char.toUpper
  split
  · rename_i lower
    intro same
    have shifted : (c.toNat + 4294967264) % 4294967296 = 46 := by
      have numbers := congrArg (fun d : Char => d.val.toNat) same
      simpa [UInt32.toNat_add] using numbers
    have low : 97 ≤ c.toNat := UInt32.le_iff_toNat_le.mp lower.1
    have high : c.toNat ≤ 122 := UInt32.le_iff_toNat_le.mp lower.2
    omega
  · exact other

/-- What holds of the characters of a text other than dots holds of its camel case, if upper case
keeps it; by induction on the text. -/
theorem camelCase_forall {p : Char → Prop} (hp : ∀ c, p c → p c.toUpper) (underscore : p '_')
    (leading : p 'X') (boundary inWord : Bool) {text : List Char}
    (each : ∀ c ∈ text, c ≠ '.' → p c)
    : ∀ c ∈ camelCase boundary inWord text, p c := by
  fun_induction camelCase boundary inWord text with
  | case1 => simp
  | case2 _ _ first rest lower ih =>
      have other : first ≠ '.' := by
        rintro rfl
        simp at lower
      rw [List.forall_mem_cons] at each ⊢
      exact ⟨each.1 other, ih each.2⟩
  | case3 _ _ _ _ _ ih => exact ih (List.forall_mem_cons.mp each).2
  | case4 _ _ _ _ _ ih =>
      exact List.forall_mem_cons.mpr ⟨underscore, ih (List.forall_mem_cons.mp each).2⟩
  | case5 _ _ _ _ _ _ _ ih =>
      exact List.forall_mem_cons.mpr ⟨leading, ih (List.forall_mem_cons.mp each).2⟩
  | case6 _ _ _ _ _ _ _ _ ih => exact ih (List.forall_mem_cons.mp each).2
  | case7 _ _ _ _ _ other _ _ _ ih =>
      rw [List.forall_mem_cons] at each ⊢
      exact ⟨each.1 other, ih each.2⟩
  | case8 _ _ _ _ _ other _ _ _ ih =>
      rw [List.forall_mem_cons] at each ⊢
      exact ⟨hp _ (each.1 other), ih each.2⟩

/-- No name in Go has a dot in it. -/
theorem goCamelCase_dotless (name : String) : '.' ∉ (goCamelCase name).toList := by
  rw [goCamelCase, String.toList_ofList]
  intro dot
  exact camelCase_forall (p := (· ≠ '.')) (fun _ => toUpper_ne_dot) (by decide) (by decide) _ _
    (fun _ _ other => other) _ dot rfl

/-- The Go name of an ASCII name with or without dots is its camel case. -/
theorem toList_goCamelCase {name : String} (h : ∀ c ∈ name.toList, c ≠ '.' → isNameChar c)
    : (goCamelCase name).toList = camelCase true false name.toList := by
  have small (c : Char) (member : c ∈ name.toList) : c.toNat < 128 := by
    by_cases dot : c = '.'
    · rw [dot]
      decide
    · exact isNameChar_small (h c member dot)
  rw [goCamelCase, String.toList_ofList, Text.chars_utf8Bytes small]

/-- It is an ASCII name without dots. -/
theorem goCamelCase_isNameChar {name : String} (h : ∀ c ∈ name.toList, c ≠ '.' → isNameChar c)
    : ∀ c ∈ (goCamelCase name).toList, isNameChar c := by
  rw [toList_goCamelCase h]
  exact camelCase_forall (p := (isNameChar ·)) (fun _ => isNameChar_toUpper) (by decide)
    (by decide) _ _ h

/-- A letter or underscore that a text starts with becomes a capital in camel case. -/
theorem camelCase_starts {first : Char} (starts : isNameStart first) (rest : List Char)
    : ∃ capital others,
        camelCase true false (first :: rest) = capital :: others ∧ capital.isUpper := by
  by_cases bare : first = '_'
  · subst bare
    exact ⟨'X', camelCase false false rest, by simp [camelCase], by decide⟩
  · have small : first.toNat < 128 := isNameChar_small (Text.isNameChar_of_isNameStart starts)
    have capital : first.toUpper.isUpper ∧ ¬first.isDigit ∧ first ≠ '.' :=
      Text.ascii_forall
        (p := fun c =>
          isNameStart c → c ≠ '_' → c.toUpper.isUpper ∧ ¬c.isDigit ∧ c ≠ '.')
        (by decide) small starts bare
    obtain ⟨upper, digit, dot⟩ := capital
    exact ⟨first.toUpper, camelCase false true rest, by simp [camelCase, bare, digit, dot], upper⟩

-----------------------------------------------------------------------------------------
-- JSON names
-----------------------------------------------------------------------------------------

/-- The JSON name of an ASCII name has no underscore, by induction on the name. -/
theorem underscore_not_mem_lowerCamel (afterUnderscore : Bool) {text : List Char}
    (h : ∀ c ∈ text, isNameChar c)
    : '_' ∉ lowerCamel afterUnderscore text := by
  fun_induction lowerCamel afterUnderscore text with
  | case1 => simp
  | case2 _ _ ih => exact ih (List.forall_mem_cons.mp h).2
  | case3 _ _ other ih =>
      rw [List.forall_mem_cons] at h
      rw [List.mem_append, not_or]
      exact ⟨Text.underscore_not_mem_upper h.1 other, ih h.2⟩
  | case4 _ _ _ other _ ih =>
      rw [List.forall_mem_cons] at h
      rw [List.mem_cons, not_or]
      exact ⟨Ne.symm other, ih h.2⟩

/-- A text without underscores stays as it is. -/
theorem lowerCamel_eq_self {text : List Char} (plain : '_' ∉ text)
    : lowerCamel false text = text := by
  induction text with
  | nil => rfl
  | cons first rest ih =>
      rw [List.mem_cons, not_or] at plain
      rw [lowerCamel, if_neg (Ne.symm plain.1), if_neg Bool.false_ne_true, ih plain.2]

/-- No JSON name has an underscore in it. -/
theorem underscore_not_mem_jsonName {name : String} (h : ∀ c ∈ name.toList, isNameChar c)
    : '_' ∉ (jsonName name).toList := by
  rw [jsonName, String.toList_ofList]
  exact underscore_not_mem_lowerCamel _ h

/-- A name without underscores is its own JSON name. -/
theorem jsonName_eq_self {name : String} (plain : '_' ∉ name.toList) : jsonName name = name := by
  rw [jsonName, lowerCamel_eq_self plain, String.ofList_toList]

end GrpcMock.Naming
