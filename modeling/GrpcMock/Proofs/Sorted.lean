import GrpcMock.Sorted
import Mathlib.Data.List.Nodup
import Mathlib.Data.List.Perm.Subperm
import Mathlib.Order.Defs.Unbundled

/-!
Association lists in the order of their keys. Sorting neither makes up a pair nor loses a key, and
pairs with distinct keys have one sorted form, however they were arranged.
-/

namespace GrpcMock.Sorted

-----------------------------------------------------------------------------------------
-- Looking up
-----------------------------------------------------------------------------------------

section Find

variable {κ α : Type} [DecidableEq κ]

/-- A value that is found stands in a pair with its key. -/
theorem mem_of_find? {key : κ} {value : α} {pairs : List (κ × α)}
    (h : find? key pairs = some value)
    : (key, value) ∈ pairs := by
  induction pairs with
  | nil => cases h
  | cons first rest ih =>
      rw [find?] at h
      split at h
      · rename_i same
        cases h
        rw [same]
        exact List.mem_cons_self ..
      · exact List.mem_cons_of_mem _ (ih h)

/-- Nothing is found under a key that is not there. -/
theorem find?_eq_none {key : κ} {pairs : List (κ × α)}
    : find? key pairs = none ↔ key ∉ pairs.map Prod.fst := by
  induction pairs with
  | nil => simp [find?]
  | cons first rest ih =>
      rw [find?, List.map_cons, List.mem_cons, not_or]
      split
      · rename_i same
        simp [same]
      · rename_i other
        exact ih.trans (and_iff_right other).symm

/-- Where keys are distinct, a key has the value that it is paired with. -/
theorem find?_of_mem {key : κ} {value : α} {pairs : List (κ × α)}
    (distinct : (pairs.map Prod.fst).Nodup) (member : (key, value) ∈ pairs)
    : find? key pairs = some value := by
  cases found : find? key pairs with
  | none => exact absurd (List.mem_map_of_mem member) (find?_eq_none.mp found)
  | some other =>
      have same := List.inj_on_of_nodup_map distinct (mem_of_find? found) member rfl
      exact congrArg (fun pair => some pair.2) same

end Find

-----------------------------------------------------------------------------------------
-- The last pair with a key
-----------------------------------------------------------------------------------------

section Last

variable {κ α : Type}

/-- The last of some pairs that has its key. -/
def IsLast (key : κ) (value : α) (pairs : List (κ × α)) : Prop :=
  ∃ before after, pairs = before ++ (key, value) :: after ∧ key ∉ after.map Prod.fst

/-- The last value of a key is among the rest, or is the first if the key is not among them. -/
theorem isLast_cons {key : κ} {value : α} {first : κ × α} {rest : List (κ × α)}
    : IsLast key value (first :: rest)
      ↔ IsLast key value rest ∨ first = (key, value) ∧ key ∉ rest.map Prod.fst := by
  constructor
  · rintro ⟨before, after, split, absent⟩
    cases before with
    | nil =>
        cases split
        exact .inr ⟨rfl, absent⟩
    | cons other others =>
        cases split
        exact .inl ⟨others, after, rfl, absent⟩
  · rintro (⟨before, after, rfl, absent⟩ | ⟨rfl, absent⟩)
    · exact ⟨first :: before, after, rfl, absent⟩
    · exact ⟨[], rest, rfl, absent⟩

end Last

-----------------------------------------------------------------------------------------
-- The order of keys
-----------------------------------------------------------------------------------------

section Order

variable {κ α : Type} [LT κ]

/-- Each key comes before all that follow it. -/
def Ascending (pairs : List (κ × α)) : Prop :=
  pairs.Pairwise fun left right => left.1 < right.1

instance [DecidableLT κ] (pairs : List (κ × α)) : Decidable (Ascending pairs) :=
  inferInstanceAs (Decidable (pairs.Pairwise _))

variable [IsStrictTotalOrder κ (· < ·)]

/-- Keys that ascend are distinct. -/
theorem Ascending.nodup {pairs : List (κ × α)} (h : Ascending pairs)
    : (pairs.map Prod.fst).Nodup := by
  refine List.pairwise_map.mpr (List.Pairwise.imp ?_ h)
  intro left right before same
  rw [same] at before
  exact irrefl _ before

/-- Pairs with the same keys and values have one form that ascends. -/
theorem Ascending.eq_of_perm {left right : List (κ × α)} (hl : Ascending left)
    (hr : Ascending right) (same : left.Perm right)
    : left = right := by
  refine List.Perm.eq_of_pairwise ?_ hl hr same
  intro first second _ _ before after
  exact absurd (IsTrans.trans _ _ _ before after) (irrefl first.1)

end Order

-----------------------------------------------------------------------------------------
-- Sorting
-----------------------------------------------------------------------------------------

variable {κ α : Type} [LT κ] [DecidableLT κ] [DecidableEq κ]

/-- After an insertion there is the new pair and what was there. -/
theorem mem_insert {key : κ} {value : α} {pairs : List (κ × α)} {pair : κ × α}
    (member : pair ∈ insert key value pairs)
    : pair = (key, value) ∨ pair ∈ pairs := by
  induction pairs with
  | nil => exact .inl (List.mem_singleton.mp member)
  | cons other rest ih =>
      rw [insert] at member
      split at member
      · exact List.mem_cons.mp member
      split at member
      · exact (List.mem_cons.mp member).imp_right (List.mem_cons_of_mem _)
      · rcases List.mem_cons.mp member with rfl | later
        · exact .inr (List.mem_cons_self ..)
        · exact (ih later).imp_right (List.mem_cons_of_mem _)

/-- A key that is sorted in has its new value, and all other keys have theirs. -/
theorem find?_insert {key other : κ} {value : α} {pairs : List (κ × α)}
    : find? other (insert key value pairs)
      = if other = key then some value else find? other pairs := by
  induction pairs with
  | nil => rfl
  | cons first rest ih =>
      rw [insert]
      split
      · rfl
      split
      · rename_i same
        rw [find?, find?, ← same]
        split <;> rfl
      · rename_i differs
        rw [find?, ih, find?]
        split
        · rename_i same
          rw [if_neg (same ▸ Ne.symm differs)]
        · rfl

/-- What is sorted was there before. -/
theorem mem_ofList {pairs : List (κ × α)} {pair : κ × α} (member : pair ∈ ofList pairs)
    : pair ∈ pairs := by
  have all
      : ∀ (pairs before : List (κ × α)),
          pair ∈ pairs.foldl (fun sorted pair => insert pair.1 pair.2 sorted) before
          → pair ∈ pairs ∨ pair ∈ before := by
    intro pairs
    induction pairs with
    | nil => exact fun _ member => .inr member
    | cons first rest ih =>
        intro before member
        rcases ih _ member with later | sorted
        · exact .inl (List.mem_cons_of_mem _ later)
        · rcases mem_insert sorted with rfl | earlier
          · exact .inl (List.mem_cons_self ..)
          · exact .inr earlier
  rcases all pairs [] member with inside | none
  · exact inside
  · cases none

/-- A new key takes the place of nothing. -/
theorem insert_perm {key : κ} {value : α} {pairs : List (κ × α)}
    (fresh : key ∉ pairs.map Prod.fst)
    : (insert key value pairs).Perm ((key, value) :: pairs) := by
  induction pairs with
  | nil => exact .refl _
  | cons other rest ih =>
      rw [List.map_cons, List.mem_cons, not_or] at fresh
      rw [insert]
      split
      · exact .refl _
      rw [if_neg fresh.1]
      exact ((ih fresh.2).cons other).trans (.swap ..)

/-- Pairs with distinct keys are all kept. -/
theorem ofList_perm {pairs : List (κ × α)} (distinct : (pairs.map Prod.fst).Nodup)
    : (ofList pairs).Perm pairs := by
  have all
      : ∀ (pairs before : List (κ × α)),
          ((pairs ++ before).map Prod.fst).Nodup
          → (pairs.foldl (fun sorted pair => insert pair.1 pair.2 sorted) before).Perm
              (pairs ++ before) := by
    intro pairs
    induction pairs with
    | nil => exact fun _ _ => .refl _
    | cons first rest ih =>
        intro before distinct
        rw [List.cons_append, List.map_cons, List.nodup_cons] at distinct
        have fresh : first.1 ∉ before.map Prod.fst := fun there =>
          distinct.1 (by rw [List.map_append]; exact List.mem_append_right _ there)
        have moved : (rest ++ insert first.1 first.2 before).Perm (first :: (rest ++ before)) :=
          ((insert_perm fresh).append_left rest).trans List.perm_middle
        refine (ih _ ?_).trans moved
        exact ((moved.map Prod.fst).nodup_iff).mpr (List.nodup_cons.mpr distinct)
  have kept := all pairs [] (by rwa [List.append_nil])
  rwa [List.append_nil] at kept

/-- Sorting leaves a key with the last value that it is paired with. -/
theorem find?_ofList {key : κ} {value : α} {pairs : List (κ × α)}
    : find? key (ofList pairs) = some value ↔ IsLast key value pairs := by
  have all
      : ∀ (pairs before : List (κ × α)),
          find? key (pairs.foldl (fun sorted pair => insert pair.1 pair.2 sorted) before)
              = some value
            ↔ IsLast key value pairs
              ∨ key ∉ pairs.map Prod.fst ∧ find? key before = some value := by
    intro pairs
    induction pairs with
    | nil =>
        intro before
        simp [IsLast]
    | cons first rest ih =>
        intro before
        rw [List.foldl_cons, ih, isLast_cons, find?_insert, or_assoc]
        refine or_congr_right ?_
        obtain ⟨other, held⟩ := first
        by_cases same : key = other
        · simp [same, and_comm]
        · simp [same, Ne.symm same]
  exact (all pairs []).trans (or_iff_left fun ⟨_, found⟩ => nomatch found)

variable [IsStrictTotalOrder κ (· < ·)]

/-- Keys still ascend after an insertion, by induction on them. -/
theorem Ascending.insert {key : κ} {value : α} {pairs : List (κ × α)} (h : Ascending pairs)
    : Ascending (insert key value pairs) := by
  induction pairs with
  | nil => exact List.pairwise_singleton _ _
  | cons other rest ih =>
      obtain ⟨first, others⟩ := List.pairwise_cons.mp h
      rw [Sorted.insert]
      split
      · rename_i before
        refine List.pairwise_cons.mpr ⟨fun pair member => ?_, h⟩
        rcases List.mem_cons.mp member with rfl | later
        · exact before
        · exact IsTrans.trans _ _ _ before (first pair later)
      split
      · rename_i same
        exact List.pairwise_cons.mpr ⟨fun pair later => same ▸ first pair later, others⟩
      · rename_i notBefore differs
        refine List.pairwise_cons.mpr ⟨fun pair member => ?_, ih others⟩
        rcases mem_insert member with rfl | later
        · exact ((trichotomous other.1 key).resolve_right
            (not_or.mpr ⟨Ne.symm differs, notBefore⟩))
        · exact first pair later

/-- What is sorted ascends, by induction on what is sorted in. -/
theorem ofList_ascending (pairs : List (κ × α)) : Ascending (ofList pairs) := by
  have all
      : ∀ (pairs before : List (κ × α)),
          Ascending before
          → Ascending (pairs.foldl (fun sorted pair => insert pair.1 pair.2 sorted) before) := by
    intro pairs
    induction pairs with
    | nil => exact fun _ h => h
    | cons first rest ih => exact fun before h => ih _ h.insert
  exact all pairs [] List.Pairwise.nil

/-- Sorting keeps all pairs only if no two of them have the same key. -/
theorem length_ofList_eq_iff {pairs : List (κ × α)}
    : (ofList pairs).length = pairs.length ↔ (pairs.map Prod.fst).Nodup := by
  constructor
  · intro same
    have listed : (ofList pairs).map Prod.fst ⊆ pairs.map Prod.fst :=
      List.map_subset _ fun _ => mem_ofList
    have all := (List.subperm_of_subset (ofList_ascending pairs).nodup listed).perm_of_length_le
      (by simp [same])
    exact all.nodup_iff.mp (ofList_ascending pairs).nodup
  · intro distinct
    exact (ofList_perm distinct).length_eq

/-- Sorting brings pairs that ascended once back to that form. -/
theorem ofList_eq_of_perm {pairs sorted : List (κ × α)} (h : Ascending sorted)
    (same : pairs.Perm sorted)
    : ofList pairs = sorted := by
  have distinct : (pairs.map Prod.fst).Nodup := ((same.map Prod.fst).nodup_iff).mpr h.nodup
  exact (ofList_ascending pairs).eq_of_perm h ((ofList_perm distinct).trans same)

end GrpcMock.Sorted
