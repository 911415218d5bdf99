import GrpcMock.Outcome
import Mathlib.Data.List.Forall2
import Mathlib.Data.List.Nodup
import Mathlib.Data.List.Pairwise

/-!
Lists that agree item by item. Such lists are passed through in the same order, so what is known of
one item carries over to its partner.
-/

namespace List.Forall₂

variable {α β γ : Type} {related : α → β → Prop} {left : List α} {right : List β}

theorem exists_right (h : Forall₂ related left right) {item : α} (member : item ∈ left)
    : ∃ partner ∈ right, related item partner := by
  induction h with
  | nil => cases member
  | cons first _ ih =>
      rcases List.mem_cons.mp member with rfl | later
      · exact ⟨_, List.mem_cons_self .., first⟩
      · obtain ⟨partner, inside, both⟩ := ih later
        exact ⟨partner, List.mem_cons_of_mem _ inside, both⟩

theorem exists_left (h : Forall₂ related left right) {partner : β} (member : partner ∈ right)
    : ∃ item ∈ left, related item partner := by
  obtain ⟨item, inside, both⟩ := h.flip.exists_right member
  exact ⟨item, inside, both⟩

/-- What holds of related items holds if it is shown for the items of the first list. -/
theorem imp_of_mem {other : α → β → Prop} (h : Forall₂ related left right)
    (imp : ∀ item ∈ left, ∀ partner, related item partner → other item partner)
    : Forall₂ other left right := by
  have both : Forall₂ (fun item partner => item ∈ left ∧ related item partner) left right :=
    (forall₂_and_left left right).mpr ⟨fun _ member => member, h⟩
  exact both.imp fun item partner ⟨member, holds⟩ => imp item member partner holds

/-- Relations that agree on the items of the first list relate the same lists to it. -/
theorem iff_of_mem {other : α → β → Prop}
    (same : ∀ item ∈ left, ∀ partner, related item partner ↔ other item partner)
    : Forall₂ related left right ↔ Forall₂ other left right :=
  ⟨fun h => h.imp_of_mem fun item member partner => (same item member partner).mp,
    fun h => h.imp_of_mem fun item member partner => (same item member partner).mpr⟩

/-- A key that related items share is listed in the same order on both sides. -/
theorem map_eq {f : α → γ} {g : β → γ} (h : Forall₂ related left right)
    (same : ∀ item partner, related item partner → f item = g partner)
    : left.map f = right.map g := by
  rw [← forall₂_eq_eq_eq, forall₂_map_left_iff, forall₂_map_right_iff]
  exact h.imp fun {item partner} => same item partner

/-- That is so as well if items are left out together with their partners. -/
theorem map_filter_eq {p : α → Bool} {q : β → Bool} {f : α → γ} {g : β → γ}
    (h : Forall₂ related left right)
    (same : ∀ item partner, related item partner → p item = q partner ∧ f item = g partner)
    : (left.filter p).map f = (right.filter q).map g := by
  induction h with
  | nil => rfl
  | cons first _ ih =>
      obtain ⟨chosen, keys⟩ := same _ _ first
      rw [filter_cons, filter_cons, chosen]
      split
      · rw [map_cons, map_cons, keys, ih]
      · exact ih

/-- Items agree with their partners as before if they are numbered. -/
theorem zipIdx (h : Forall₂ related left right) (start : Nat)
    : Forall₂ (fun item partner => related item.1 partner) (left.zipIdx start) right := by
  induction h generalizing start with
  | nil => exact .nil
  | cons first _ ih => exact .cons first (ih (start + 1))

end List.Forall₂

namespace GrpcMock

/-- Items that all have partners make up a list of partners. -/
theorem exists_forall₂ {α β : Type} {related : α → β → Prop} {items : List α}
    (each : ∀ item ∈ items, ∃ partner, related item partner)
    : ∃ partners, List.Forall₂ related items partners := by
  induction items with
  | nil => exact ⟨[], .nil⟩
  | cons first rest ih =>
      obtain ⟨⟨partner, head⟩, others⟩ := List.forall_mem_cons.mp each
      obtain ⟨partners, tail⟩ := ih others
      exact ⟨partner :: partners, .cons head tail⟩

/-- Lists made of different items have nothing in common if those of any two of them have not,
whatever their order. -/
theorem pairwise_disjoint_iff {α β : Type} {items : List α} {f : α → List β}
    (distinct : items.Nodup)
    : items.Pairwise (Function.onFun List.Disjoint f)
      ↔ ∀ left ∈ items, ∀ right ∈ items, left ≠ right → (f left).Disjoint (f right) := by
  constructor
  · intro pairwise left member right memberToo differs
    have symmetric : Std.Symm (Function.onFun List.Disjoint f) :=
      ⟨fun _ _ disjoint _ here there => disjoint there here⟩
    exact pairwise.forall member memberToo differs
  · intro each
    exact distinct.pairwise_of_forall_ne fun left member right memberToo =>
      each left member right memberToo

/-- The only item of a list is its first and its last. -/
theorem head?_eq_getLast? {α : Type} {items : List α} (one : items.length ≤ 1)
    : items.head? = items.getLast? := by
  rcases items with _ | ⟨first, _ | ⟨second, rest⟩⟩
  · rfl
  · rfl
  · simp at one

/-- A computation for each item of a list succeeds if all of them do. -/
theorem mapM_eq_ok {ε α β : Type} {f : α → Except ε β} {items : List α} {results : List β}
    : items.mapM f = .ok results
      ↔ List.Forall₂ (fun item result => f item = .ok result) items results := by
  induction items generalizing results with
  | nil =>
      rw [List.mapM_nil, pure_eq_ok, List.forall₂_nil_left_iff]
      exact eq_comm
  | cons first rest ih =>
      simp only [List.mapM_cons, bind_eq_ok, pure_eq_ok, ih, List.forall₂_cons_left_iff]
      constructor
      · rintro ⟨head, passed, tail, others, rfl⟩
        exact ⟨head, tail, passed, others, rfl⟩
      · rintro ⟨head, tail, passed, others, rfl⟩
        exact ⟨head, passed, tail, others, rfl⟩

section Keys

variable {α β : Type} [DecidableEq β] {key : α → β} {items left right : List α} {item : α}
  {name : β}

/-- Among items with distinct keys, the one with a key is found by it. -/
theorem find?_eq_some_of_nodup (distinct : (items.map key).Nodup)
    : items.find? (key · == name) = some item ↔ item ∈ items ∧ key item = name := by
  constructor
  · intro found
    exact ⟨List.mem_of_find?_eq_some found, by simpa using List.find?_some found⟩
  · intro ⟨member, same⟩
    cases search : items.find? (key · == name) with
    | none =>
        have missed := List.find?_eq_none.mp search item member
        simp [same] at missed
    | some other =>
        have named : key other = name := by simpa using List.find?_some search
        have inside := List.mem_of_find?_eq_some search
        rw [List.inj_on_of_nodup_map distinct inside member (named.trans same.symm)]

/-- The order of items with distinct keys does not decide on what is found by a key. -/
theorem find?_eq_of_perm (perm : left.Perm right) (distinct : (right.map key).Nodup) (name : β)
    : left.find? (key · == name) = right.find? (key · == name) := by
  have distinctToo : (left.map key).Nodup := (perm.map key).nodup_iff.mpr distinct
  refine Option.ext fun item => ?_
  rw [find?_eq_some_of_nodup distinctToo, find?_eq_some_of_nodup distinct, perm.mem_iff]

end Keys

section Checks

variable {ε α : Type} {f : α → Except ε Unit} {items : List α}

/-- A list of checks passes if all of them do. -/
theorem forM_eq_ok : forM items f = .ok () ↔ ∀ item ∈ items, f item = .ok () := by
  induction items with
  | nil => exact iff_of_true rfl nofun
  | cons first rest ih => rw [List.forM_cons, check_bind_eq_ok, ih, List.forall_mem_cons]

/-- A list of checks fails with the failure of the first one that fails. -/
theorem forM_eq_error {failure : ε}
    : forM items f = .error failure
      ↔ ∃ earlier item later,
          items = earlier ++ item :: later
          ∧ (∀ other ∈ earlier, f other = .ok ())
          ∧ f item = .error failure := by
  induction items with
  | nil =>
      constructor
      · nofun
      · rintro ⟨earlier, item, later, none, _⟩
        cases earlier <;> cases none
  | cons first rest ih =>
      rw [List.forM_cons]
      cases checked : f first with
      | ok =>
          refine ih.trans ⟨?_, ?_⟩
          · rintro ⟨earlier, item, later, rfl, passed, failed⟩
            exact ⟨first :: earlier, item, later, rfl,
              List.forall_mem_cons.mpr ⟨checked, passed⟩, failed⟩
          · rintro ⟨_ | ⟨_, earlier⟩, item, later, same, passed, failed⟩
            · cases same
              cases checked.symm.trans failed
            · cases same
              exact ⟨earlier, item, later, rfl, (List.forall_mem_cons.mp passed).2, failed⟩
      | error other =>
          constructor
          · rintro ⟨⟩
            exact ⟨[], first, rest, rfl, nofun, checked⟩
          · rintro ⟨_ | ⟨_, earlier⟩, item, later, same, passed, failed⟩
            · cases same
              exact checked.symm.trans failed
            · cases same
              cases checked.symm.trans (List.forall_mem_cons.mp passed).1

end Checks

end GrpcMock
