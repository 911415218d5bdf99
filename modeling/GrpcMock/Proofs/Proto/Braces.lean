import GrpcMock.Proto.Parse

/-!
Braces among tokens. They are balanced if nowhere more of them are closed than opened before, and in
the end as many are; following how many are open tells whether they are.
-/

namespace GrpcMock.Proto

/-- How many tokens open a brace. -/
def opened (tokens : Tokens) : Nat :=
  tokens.countP (·.text = "\x7b")

/-- How many tokens close a brace. -/
def closed (tokens : Tokens) : Nat :=
  tokens.countP (·.text = "\x7d")

/-- Every brace that is closed was opened before, and every brace that is opened is closed. -/
structure Balanced (tokens : Tokens) : Prop where
  covered : ∀ front, front <+: tokens → closed front ≤ opened front
  even : opened tokens = closed tokens

/-- How many braces are open after some tokens, unless one is closed that is not open. -/
def nesting? (depth : Nat) : Tokens → Option Nat
  | [] => some depth
  | token :: rest =>
      if token.text = "\x7b" then nesting? (depth + 1) rest
      else if token.text = "\x7d" then
        if depth = 0 then none else nesting? (depth - 1) rest
      else nesting? depth rest

/-- The first token counts if it opens a brace. -/
theorem opened_cons (token : Token) (rest : Tokens)
    : opened (token :: rest) = opened rest + if token.text = "\x7b" then 1 else 0 := by
  simp [opened, List.countP_cons]

/-- The first token counts if it closes one. -/
theorem closed_cons (token : Token) (rest : Tokens)
    : closed (token :: rest) = closed rest + if token.text = "\x7d" then 1 else 0 := by
  simp [closed, List.countP_cons]

/-- The braces that are opened in two parts add up. -/
theorem opened_append (left right : Tokens)
    : opened (left ++ right) = opened left + opened right :=
  List.countP_append

/-- So do those that are closed. -/
theorem closed_append (left right : Tokens)
    : closed (left ++ right) = closed left + closed right :=
  List.countP_append

/-- The second of two parts begins on the level on which the first one ends. -/
theorem nesting?_append (depth : Nat) (left right : Tokens)
    : nesting? depth (left ++ right) = (nesting? depth left).bind (nesting? · right) := by
  fun_induction nesting? depth left <;> simp_all [nesting?]

/-- Braces can be followed if in no front part more are closed than can be. -/
theorem nesting?_eq_some {depth left : Nat} {tokens : Tokens}
    : nesting? depth tokens = some left
      ↔ (∀ front, front <+: tokens → closed front ≤ depth + opened front)
        ∧ depth + opened tokens = left + closed tokens := by
  induction tokens generalizing depth with
  | nil => simp [nesting?, opened, closed]
  | cons token rest ih =>
      have fronts
          : (∀ front, front <+: token :: rest → closed front ≤ depth + opened front)
            ↔ ∀ front,
                front <+: rest → closed (token :: front) ≤ depth + opened (token :: front) := by
        constructor
        · intro all front before
          exact all _ (List.cons_prefix_cons.mpr ⟨rfl, before⟩)
        · intro all front before
          rcases List.prefix_cons_iff.mp before with rfl | ⟨tail, rfl, inside⟩
          · exact Nat.zero_le _
          · exact all tail inside
      rw [fronts]
      simp only [opened_cons, closed_cons, nesting?]
      by_cases opens : token.text = "\x7b"
      · have closes : token.text ≠ "\x7d" := by simp [opens]
        simp only [if_pos opens, if_neg closes, ih]
        refine and_congr (forall₂_congr fun front _ => ?_) ?_ <;> omega
      by_cases closes : token.text = "\x7d"
      · simp only [if_neg opens, if_pos closes]
        by_cases zero : depth = 0
        · subst zero
          simp only [if_true, reduceCtorEq, false_iff, not_and]
          intro all
          have first := all [] List.nil_prefix
          simp [opened, closed] at first
        · rw [if_neg zero, ih]
          refine and_congr (forall₂_congr fun front _ => ?_) ?_ <;> omega
      · simp only [if_neg opens, if_neg closes, ih]
        refine and_congr (forall₂_congr fun front _ => ?_) ?_ <;> omega

/-- Braces are balanced exactly if none is left open and none is closed too often. -/
theorem balanced_iff {tokens : Tokens} : Balanced tokens ↔ nesting? 0 tokens = some 0 := by
  rw [nesting?_eq_some]
  constructor
  · intro h
    exact ⟨fun front before => by have := h.covered front before; omega, by have := h.even; omega⟩
  · intro h
    exact ⟨fun front before => by have := h.1 front before; omega, by have := h.2; omega⟩

instance (tokens : Tokens) : Decidable (Balanced tokens) :=
  decidable_of_iff _ balanced_iff.symm

/-- Balanced braces leave the depth as it was. -/
theorem Balanced.nesting?_eq {tokens : Tokens} (h : Balanced tokens) (depth : Nat)
    : nesting? depth tokens = some depth := by
  rw [nesting?_eq_some]
  exact ⟨fun front before => by have := h.covered front before; omega, by have := h.even; omega⟩

/-- The braces of a run are balanced after those that are open before it, or it closes more. -/
def Settled (depth : Nat) (run : Tokens) : Prop :=
  nesting? depth run = some 0 ∨ depth + opened run < closed run

/-- A brace that opens leaves one more to settle. -/
theorem Settled.opening {depth : Nat} {token : Token} {run : Tokens}
    (opens : token.text = "\x7b") (h : Settled (depth + 1) run)
    : Settled depth (token :: run) := by
  have closes : token.text ≠ "\x7d" := by simp [opens]
  rcases h with level | more
  · exact .inl (by rw [nesting?, if_pos opens, level])
  · refine .inr ?_
    rw [opened_cons, closed_cons, if_pos opens, if_neg closes]
    omega

/-- A brace that is closed though none is open makes the run close more. -/
theorem Settled.closing {depth : Nat} {token : Token} {run : Tokens}
    (closes : token.text = "\x7d") (h : Settled (depth - 1) run)
    : Settled depth (token :: run) := by
  have opens : token.text ≠ "\x7b" := by simp [closes]
  have counts : opened (token :: run) = opened run ∧ closed (token :: run) = closed run + 1 := by
    rw [opened_cons, closed_cons, if_neg opens, if_pos closes]
    exact ⟨rfl, rfl⟩
  rcases h with level | more
  · by_cases zero : depth = 0
    · have even := (nesting?_eq_some.mp level).2
      exact .inr (by omega)
    · exact .inl (by rw [nesting?, if_neg opens, if_pos closes, if_neg zero, level])
  · exact .inr (by omega)

/-- A token that is no brace leaves as many to settle. -/
theorem Settled.other {depth : Nat} {token : Token} {run : Tokens}
    (opens : token.text ≠ "\x7b") (closes : token.text ≠ "\x7d") (h : Settled depth run)
    : Settled depth (token :: run) := by
  rcases h with level | more
  · exact .inl (by rw [nesting?, if_neg opens, if_neg closes, level])
  · refine .inr ?_
    rw [opened_cons, closed_cons, if_neg opens, if_neg closes]
    omega

end GrpcMock.Proto
