import GrpcMock.Decimal.Integer

/-!
Decimal texts of integers. A text that is written holds digits, with a minus sign before them if the
integer is negative, and it is read back in every range that holds the integer.
-/

namespace GrpcMock.Decimal

/-- The digits of a number have its value. -/
theorem digitsValue_toDigits (n : Nat) : digitsValue (Nat.toDigits 10 n) = n := by
  have same : digitsValue (Nat.toDigits 10 n) = Nat.ofDigitChars 10 (Nat.toDigits 10 n) 0 :=
    Nat.ofDigitChars_eq_foldl.symm
  rw [same, Nat.ofDigitChars_ten_toDigits]

/-- The digits of a number are digits. -/
theorem isDigit_toDigits {n : Nat} {c : Char} (member : c ∈ Nat.toDigits 10 n) : c.isDigit :=
  Nat.isDigit_of_mem_toDigits (by decide) (by decide) member

/-- A natural number is read back from its digits. -/
theorem readNat?_toDigits (n : Nat) : readNat? (Nat.toDigits 10 n) = some n := by
  have digits : (Nat.toDigits 10 n).all Char.isDigit :=
    List.all_eq_true.mpr fun _ member => isDigit_toDigits member
  have some : (Nat.toDigits 10 n).isEmpty = false :=
    List.isEmpty_eq_false_iff.mpr Nat.toDigits_ne_nil
  rw [readNat?, digits, some, digitsValue_toDigits]
  rfl

/-- The digits of a natural number do not begin with a sign. -/
theorem toDigits_cons (n : Nat)
    : ∃ first rest, Nat.toDigits 10 n = first :: rest ∧ first ≠ '+' ∧ first ≠ '-' := by
  cases digits : Nat.toDigits 10 n with
  | nil => exact absurd digits Nat.toDigits_ne_nil
  | cons first rest =>
      have isDigit : first.isDigit := isDigit_toDigits (digits ▸ List.mem_cons_self ..)
      refine ⟨first, rest, rfl, ?_, ?_⟩ <;>
        · rintro rfl
          cases isDigit

/-- A natural number is written by its digits. -/
theorem toList_natCast (n : Nat) : (toString (n : Int)).toList = Nat.toDigits 10 n :=
  Nat.toList_repr

/-- A negative number is written by a sign and digits. -/
theorem toList_negSucc (n : Nat)
    : (toString (Int.negSucc n)).toList = '-' :: Nat.toDigits 10 (n + 1) := by
  have written : toString (Int.negSucc n) = "-" ++ Nat.repr (n + 1) := rfl
  rw [written, String.toList_append, Nat.toList_repr]
  rfl

/-- No number is written as nothing. -/
theorem toString_ne_nil (n : Int) : (toString n).toList ≠ [] := by
  cases n with
  | ofNat n =>
      rw [Int.ofNat_eq_natCast, toList_natCast]
      exact Nat.toDigits_ne_nil
  | negSucc n =>
      rw [toList_negSucc]
      exact List.cons_ne_nil _ _

/-- An integer is written with digits and minus signs only. -/
theorem mem_toString {n : Int} {c : Char} (member : c ∈ (toString n).toList)
    : c.isDigit ∨ c = '-' := by
  cases n with
  | ofNat n =>
      rw [Int.ofNat_eq_natCast, toList_natCast] at member
      exact .inl (isDigit_toDigits member)
  | negSucc n =>
      rw [toList_negSucc] at member
      rcases List.mem_cons.mp member with rfl | digit
      · exact .inr rfl
      · exact .inl (isDigit_toDigits digit)

/-- A range holds the numbers between its ends. -/
theorem Range.holds_iff {range : Range} {n : Int}
    : range.holds n ↔ range.lowest ≤ n ∧ n ≤ range.highest := by
  simp [Range.holds]

/-- What is read is of the range. -/
theorem Range.holds_of_read? {range : Range} {text : List Char} {n : Int}
    (h : range.read? text = some n)
    : range.holds n := by
  have kept {read : Option Int}
      (taken : (read.bind fun value => if range.holds value then some value else none) = some n)
      : range.holds n := by
    obtain ⟨value, -, checked⟩ := Option.bind_eq_some_iff.mp taken
    split at checked
    · rename_i held
      cases checked
      exact held
    · cases checked
  unfold Range.read? at h
  split at h
  · exact kept h
  · split at h
    · exact kept h
    · cases h
  · exact kept h

/-- What is written is read back, if it may be read at all. -/
theorem Range.read?_toString {range : Range} {n : Int} (h : range.holds n)
    : range.read? (toString n).toList = some n := by
  cases n with
  | ofNat n =>
      obtain ⟨first, rest, digits, notPlus, notMinus⟩ := toDigits_cons n
      have value : readNat? (first :: rest) = some n := digits ▸ readNat?_toDigits n
      have held : range.holds (n : Int) := h
      rw [Int.ofNat_eq_natCast, toList_natCast, digits, Range.read?] <;> simp_all
  | negSucc n =>
      have negative : range.lowest < 0 := by
        exact Int.lt_of_le_of_lt (Range.holds_iff.mp h).1 (Int.negSucc_lt_zero n)
      have value : -Int.ofNat (n + 1) = Int.negSucc n := rfl
      rw [toList_negSucc, Range.read?, if_pos negative, readNat?_toDigits]
      simp only [Option.map_some, value, h, Option.bind_eq_bind, Option.bind_some, if_true]

/-- An integer is told by its text, which is read back. -/
theorem toString_inj {left right : Int} (same : toString left = toString right)
    : left = right := by
  let range : Range := ⟨min left right, max left right⟩
  have first : range.read? (toString left).toList = some left :=
    Range.read?_toString (Range.holds_iff.mpr ⟨Int.min_le_left .., Int.le_max_left ..⟩)
  have second : range.read? (toString right).toList = some right :=
    Range.read?_toString (Range.holds_iff.mpr ⟨Int.min_le_right .., Int.le_max_right ..⟩)
  rw [same, second] at first
  exact (Option.some.inj first).symm

end GrpcMock.Decimal
