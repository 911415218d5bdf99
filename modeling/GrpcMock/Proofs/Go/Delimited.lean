import GrpcMock.Go.Literal
import GrpcMock.Proofs.Text.Runs
import Mathlib.Data.List.Forall2

/-!
Pieces of Go text that show where they end. A value stands before a comma, a brace, a bracket or a
colon, or at the end; if that is enough to tell its text from the texts of other values, then values
that stand in braces with commas between them can be told apart as well.
-/

namespace GrpcMock.Go

/-- Nothing, or a text that begins with a character that ends the value before it. -/
def Closed (rest : List Char) : Prop :=
  ∀ c ∈ rest.head?, c = ',' ∨ c = '\x7d' ∨ c = ')' ∨ c = ':'

theorem closed_nil : Closed [] := by
  simp [Closed]

theorem closed_cons {c : Char} {rest : List Char}
    (h : c = ',' ∨ c = '\x7d' ∨ c = ')' ∨ c = ':')
    : Closed (c :: rest) := by
  simpa [Closed] using h

/-- What ends a value does not go on with a run in it. -/
theorem Closed.ends {p : Char → Prop} {rest : List Char} (h : Closed rest)
    (closers : ¬p ',' ∧ ¬p '\x7d' ∧ ¬p ')' ∧ ¬p ':')
    : ∀ c ∈ rest.head?, ¬p c := by
  intro c first
  rcases h c first with rfl | rfl | rfl | rfl
  · exact closers.1
  · exact closers.2.1
  · exact closers.2.2.1
  · exact closers.2.2.2

section Items

variable {ε α : Type} {text : α → Except ε String} {typed : α → Prop}

/-- A value has a text that no other value of its type has, whatever follows either. -/
def TellsApart (text : α → Except ε String) (typed : α → Prop) (value : α) : Prop :=
  ∀ ⦃other : α⦄ ⦃first second : String⦄ ⦃after rest : List Char⦄,
    typed other
    → text value = .ok first
    → text other = .ok second
    → Closed after
    → Closed rest
    → first.toList ++ after = second.toList ++ rest
    → value = other

/-- A text that does not begin like the end of a list. -/
def Opens (text : String) : Prop :=
  ∃ c rest, text.toList = c :: rest ∧ c ≠ '\x7d'

/-- The items of a list after the first, each with a comma before it. -/
def following (parts : List String) : List Char :=
  parts.flatMap fun part => ',' :: ' ' :: part.toList

/-- What follows an item is a comma, a blank and the items that are left. -/
theorem following_cons (first : String) (rest : List String)
    : following (first :: rest) = ',' :: ' ' :: (joined (first :: rest)).toList := by
  induction rest generalizing first with
  | nil => simp [joined, following]
  | cons second others ih =>
      have split : (joined (first :: second :: others)).toList
          = first.toList ++ ',' :: ' ' :: (joined (second :: others)).toList := by
        simp [joined, String.intercalate_cons_cons]
      rw [split, ← ih]
      rfl

/-- A list that is not empty begins as its first item does. -/
theorem joined_head {part : String} {c : Char} {tail : List Char} (chars : part.toList = c :: tail)
    (parts : List String)
    : ∃ more, (joined (part :: parts)).toList = c :: more := by
  have whole : following (part :: parts) = ',' :: ' ' :: c :: (tail ++ following parts) := by
    simp [following, chars]
  rw [following_cons] at whole
  exact ⟨_, (List.cons.inj (List.cons.inj whole).2).2⟩

/-- After an item of a list comes a comma or the brace that ends the list. -/
theorem closed_following (parts : List String) (rest : List Char)
    : Closed (following parts ++ '\x7d' :: rest) := by
  cases parts with
  | nil => exact closed_cons (.inr (.inl rfl))
  | cons => exact closed_cons (.inl rfl)

/-- Items that can be told apart can be told apart in a list, by induction on one of the lists. -/
theorem following_apart {left right : List α} {first second : List String} {after rest : List Char}
    (each : ∀ value ∈ left, TellsApart text typed value) (others : ∀ value ∈ right, typed value)
    (hl : List.Forall₂ (fun value part => text value = .ok part) left first)
    (hr : List.Forall₂ (fun value part => text value = .ok part) right second)
    (same : following first ++ '\x7d' :: after = following second ++ '\x7d' :: rest)
    : left = right := by
  induction hl generalizing right second with
  | nil =>
      cases hr with
      | nil => rfl
      | cons => simp [following] at same
  | @cons value part values parts head tail ih =>
      cases hr with
      | nil => simp [following] at same
      | @cons other piece _ pieces headToo tailToo =>
          rw [List.forall_mem_cons] at each others
          have items : part.toList ++ (following parts ++ '\x7d' :: after)
              = piece.toList ++ (following pieces ++ '\x7d' :: rest) := by
            simpa [following] using same
          have equal : value = other := each.1 others.1 head headToo
            (closed_following parts after) (closed_following pieces rest) items
          subst equal
          cases head.symm.trans headToo
          rw [ih each.2 others.2 tailToo (List.append_cancel_left items)]

/-- A list in braces after a type can be told from other lists after that type. -/
theorem composite_apart {type : String} {left right : List α} {first second : List String}
    {after rest : List Char} (each : ∀ value ∈ left, TellsApart text typed value)
    (typedLeft : ∀ value ∈ left, typed value) (typedRight : ∀ value ∈ right, typed value)
    (opens : ∀ value part, typed value → text value = .ok part → Opens part)
    (hl : List.Forall₂ (fun value part => text value = .ok part) left first)
    (hr : List.Forall₂ (fun value part => text value = .ok part) right second)
    (same : (composite type first).toList ++ after = (composite type second).toList ++ rest)
    : left = right := by
  have inside
      : (joined first).toList ++ '\x7d' :: after = (joined second).toList ++ '\x7d' :: rest := by
    simpa [composite] using same
  cases hl with
  | nil =>
      cases hr with
      | nil => rfl
      | @cons _ _ _ parts head =>
          obtain ⟨c, _, chars, other⟩ := opens _ _ (typedRight _ (List.mem_cons_self ..)) head
          obtain ⟨more, begins⟩ := joined_head chars parts
          rw [begins] at inside
          exact absurd (List.cons.inj inside).1.symm other
  | @cons _ part _ parts head tail =>
      cases hr with
      | nil =>
          obtain ⟨c, _, chars, other⟩ := opens _ _ (typedLeft _ (List.mem_cons_self ..)) head
          obtain ⟨more, begins⟩ := joined_head chars parts
          rw [begins] at inside
          exact absurd (List.cons.inj inside).1 other
      | @cons _ piece _ pieces headToo tailToo =>
          have items : following (part :: parts) ++ '\x7d' :: after
              = following (piece :: pieces) ++ '\x7d' :: rest := by
            rw [following_cons, following_cons]
            exact congrArg (fun chars => ',' :: ' ' :: chars) inside
          exact following_apart each typedRight (.cons head tail) (.cons headToo tailToo) items

end Items

end GrpcMock.Go
