import GrpcMock.Proofs.Text.Ascii
import GrpcMock.Text.Blank

/-!
What two sets of characters have in common. Whether they have anything can be seen from the ends of
their ranges.
-/

namespace GrpcMock.Text

theorem exists_of_inRanges {ranges : List CodeRange} {c : Char} (h : inRanges ranges c)
    : ∃ range ∈ ranges, range.1 ≤ c.toNat ∧ c.toNat ≤ range.2 := by
  induction ranges with
  | nil => cases h
  | cons range others ih =>
      rw [inRanges] at h
      split at h
      · cases h
      rename_i notBefore
      rcases Bool.or_eq_true_iff.mp h with notAfter | later
      · exact ⟨range, by simp, Nat.le_of_not_lt notBefore, of_decide_eq_true notAfter⟩
      · obtain ⟨other, member, inside⟩ := ih later
        exact ⟨other, List.mem_cons_of_mem _ member, inside⟩

/-- Sets of characters are disjoint if each range of one lies before or after each of the other. -/
theorem inRanges_disjoint {left right : List CodeRange}
    (apart : ∀ range ∈ left, ∀ other ∈ right, range.2 < other.1 ∨ other.2 < range.1) {c : Char}
    (h : inRanges left c)
    : inRanges right c = false := by
  refine Bool.eq_false_iff.mpr fun both => ?_
  obtain ⟨range, member, low, high⟩ := exists_of_inRanges h
  obtain ⟨other, memberToo, lowToo, highToo⟩ := exists_of_inRanges both
  rcases apart range member other memberToo with before | after
  · omega
  · omega

/-- No digit of any script is white space. -/
theorem not_isBlank_of_isDecimalDigit {c : Char} (h : isDecimalDigit c) : isBlank c = false := by
  rcases Bool.or_eq_true_iff.mp h with plain | foreign
  · have small : c.toNat < 128 := isNameChar_small (by simp [isNameChar, Char.isAlphanum, plain])
    exact ascii_forall (p := fun c => c.isDigit → isBlank c = false) (by decide) small plain
  · exact inRanges_disjoint (by decide) foreign

end GrpcMock.Text
