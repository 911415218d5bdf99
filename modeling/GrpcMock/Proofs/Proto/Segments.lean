import GrpcMock.Proofs.Proto.Braces

/-!
Segments of the tokens of a file: statements that are passed over and options in brackets each make
one, and so does every token outside them. All braces are balanced if those outside of statements
and options are, and those in each of them.
-/

namespace GrpcMock.Proto

/-- A token that counts by itself, a statement after its first word, or options after the bracket
that opens them. -/
inductive Segment where
  | token (token : Token)
  | statement (run : Tokens)
  | options (run : Tokens)

def Segment.tokens : Segment → Tokens
  | .token single => [single]
  | .statement run => run
  | .options run => run

/-- The tokens that count by themselves. -/
def kept (segments : List Segment) : Tokens :=
  segments.filterMap fun
    | .token token => some token
    | _ => none

theorem kept_cons (part : Segment) (rest : List Segment)
    : kept (part :: rest) = kept [part] ++ kept rest :=
  List.filterMap_append (l := [part])

/-- Tokens up to a mark that is not enclosed between others, and those after it. -/
def runTo (opening closing mark : String) (depth : Nat) : Tokens → Tokens × Tokens
  | [] => ([], [])
  | token :: rest =>
      if token.text = "" then ([], token :: rest)
      else if token.text = mark ∧ depth = 0 then ([token], rest)
      else
        let inside :=
          if token.text = opening then depth + 1
          else if token.text = closing then depth - 1
          else depth
        let (run, left) := runTo opening closing mark inside rest
        (token :: run, left)

/-- Every token of a run has a text, and the run and what is left are what there was. -/
theorem runTo_spec (opening closing mark : String) (depth : Nat) (tokens : Tokens)
    : (runTo opening closing mark depth tokens).1 ++ (runTo opening closing mark depth tokens).2
        = tokens
      ∧ ∀ token ∈ (runTo opening closing mark depth tokens).1, token.text ≠ "" := by
  fun_induction runTo opening closing mark depth tokens <;> simp_all

theorem runTo_length (opening closing mark : String) (depth : Nat) (tokens : Tokens)
    : (runTo opening closing mark depth tokens).2.length ≤ tokens.length := by
  have whole := congrArg List.length (runTo_spec opening closing mark depth tokens).1
  rw [List.length_append] at whole
  omega

/-- The words that begin a statement that is passed over. -/
def isPassedOver (text : String) : Bool :=
  text == "option" || text == "reserved" || text == "extensions"

/-- A statement can begin after one of these. -/
def isBoundary (text : String) : Bool :=
  text == ";" || text == "\x7b" || text == "\x7d"

/-- The segments of the tokens before the empty one; `atFront` tells that a statement can begin. -/
def segments (atFront : Bool) : Tokens → List Segment
  | [] => []
  | token :: rest =>
      if token.text = "" then []
      else if atFront && isPassedOver token.text then
        let run := runTo "\x7b" "\x7d" ";" 0 rest
        .token token :: .statement run.1 :: segments true run.2
      else if token.text = "[" then
        let run := runTo "[" "]" "]" 0 rest
        .token token :: .options run.1 :: segments false run.2
      else .token token :: segments (isBoundary token.text) rest
termination_by tokens => tokens.length
decreasing_by
  all_goals
    have := runTo_length "\x7b" "\x7d" ";" 0 rest
    have := runTo_length "[" "]" "]" 0 rest
    simp only [List.length_cons]
    omega

-----------------------------------------------------------------------------------------
-- All tokens
-----------------------------------------------------------------------------------------

/-- Segments hold all the tokens before the empty one. -/
theorem segments_tokens (atFront : Bool) (tokens : Tokens)
    : (segments atFront tokens).flatMap Segment.tokens = tokens.takeWhile (·.text ≠ "") := by
  fun_induction segments atFront tokens with
  | case1 => rfl
  | case2 atFront token rest text => simp [text]
  | case3 atFront token rest text word run ih =>
      obtain ⟨whole, written⟩ := runTo_spec "\x7b" "\x7d" ";" 0 rest
      have all : ∀ token ∈ run.1, decide (token.text ≠ "") = true := by simpa using written
      rw [List.flatMap_cons, List.flatMap_cons, ih,
        List.takeWhile_cons_of_pos (by simpa using text), ← whole,
        List.takeWhile_append_of_pos all]
      rfl
  | case4 atFront token rest text word bracket run ih =>
      obtain ⟨whole, written⟩ := runTo_spec "[" "]" "]" 0 rest
      have all : ∀ token ∈ run.1, decide (token.text ≠ "") = true := by simpa using written
      rw [List.flatMap_cons, List.flatMap_cons, ih,
        List.takeWhile_cons_of_pos (by simpa using text), ← whole,
        List.takeWhile_append_of_pos all]
      rfl
  | case5 atFront token rest text word bracket ih =>
      rw [List.flatMap_cons, ih, List.takeWhile_cons_of_pos (by simpa using text)]
      rfl

section Whole

variable {parts : List Segment}

/-- Statements and options with balanced braces leave the depth as it is without them. -/
theorem nesting?_flatMap {depth after : Nat} (level : nesting? depth (kept parts) = some after)
    (statements : ∀ run, .statement run ∈ parts → Balanced run)
    (options : ∀ run, .options run ∈ parts → Balanced run)
    : nesting? depth (parts.flatMap Segment.tokens) = some after := by
  induction parts generalizing depth with
  | nil => exact level
  | cons part rest ih =>
      have statements' := fun run member => statements run (List.mem_cons_of_mem part member)
      have options' := fun run member => options run (List.mem_cons_of_mem part member)
      rw [List.flatMap_cons, nesting?_append]
      cases part with
      | token single =>
          rw [kept_cons, nesting?_append] at level
          obtain ⟨between, first, others⟩ := Option.bind_eq_some_iff.mp level
          exact Option.bind_eq_some_iff.mpr ⟨between, first, ih others statements' options'⟩
      | statement run =>
          have same := (statements run List.mem_cons_self).nesting?_eq depth
          exact Option.bind_eq_some_iff.mpr ⟨depth, same, ih level statements' options'⟩
      | options run =>
          have same := (options run List.mem_cons_self).nesting?_eq depth
          exact Option.bind_eq_some_iff.mpr ⟨depth, same, ih level statements' options'⟩

/-- A segment opens no more braces than it closes, but for a token that counts by itself. -/
theorem Segment.counts {part : Segment} (settled : ∀ run, part = .statement run → Settled 0 run)
    (options : ∀ run, part = .options run → Balanced run)
    : opened part.tokens + closed (kept [part]) ≤ closed part.tokens + opened (kept [part])
      ∧ (opened part.tokens + closed (kept [part]) = closed part.tokens + opened (kept [part])
        → ∀ run, part = .statement run → Balanced run) := by
  cases part with
  | token single => exact ⟨Nat.le_of_eq (Nat.add_comm ..), fun _ _ same => nomatch same⟩
  | options run =>
      exact ⟨Nat.le_of_eq (options run rfl).even, fun _ _ same => nomatch same⟩
  | statement run =>
      change opened run ≤ closed run ∧ (opened run = closed run → _)
      rcases settled run rfl with level | more
      · have balanced := balanced_iff.mpr level
        refine ⟨Nat.le_of_eq balanced.even, fun _ other same => ?_⟩
        cases same
        exact balanced
      · exact ⟨by omega, by omega⟩

/-- Settled statements add no more braces that are opened than closed, and as many only if each is
balanced. -/
theorem flatMap_counts (settled : ∀ run, .statement run ∈ parts → Settled 0 run)
    (options : ∀ run, .options run ∈ parts → Balanced run)
    : opened (parts.flatMap Segment.tokens) + closed (kept parts)
        ≤ closed (parts.flatMap Segment.tokens) + opened (kept parts)
      ∧ (opened (parts.flatMap Segment.tokens) + closed (kept parts)
          = closed (parts.flatMap Segment.tokens) + opened (kept parts)
        → ∀ run, .statement run ∈ parts → Balanced run) := by
  induction parts with
  | nil => exact ⟨Nat.le_refl _, fun _ _ member => nomatch member⟩
  | cons part rest ih =>
      obtain ⟨fewer, level⟩ :=
        ih (fun run member => settled run (List.mem_cons_of_mem part member))
          (fun run member => options run (List.mem_cons_of_mem part member))
      obtain ⟨fewer', level'⟩ :=
        Segment.counts (fun run same => settled run (same ▸ List.mem_cons_self))
          (fun run same => options run (same ▸ List.mem_cons_self))
      rw [List.flatMap_cons, kept_cons, opened_append, closed_append, opened_append, closed_append]
      refine ⟨by omega, fun same run member => ?_⟩
      rcases List.mem_cons.mp member with here | there
      · exact level' (by omega) run here.symm
      · exact level (by omega) run there

/-- Given balanced options, all braces are balanced if those of each statement are. -/
theorem balanced_flatMap_iff (level : Balanced (kept parts))
    (settled : ∀ run, .statement run ∈ parts → Settled 0 run)
    (options : ∀ run, .options run ∈ parts → Balanced run)
    : Balanced (parts.flatMap Segment.tokens)
      ↔ ∀ run, .statement run ∈ parts → Balanced run := by
  constructor
  · intro balanced
    have even := balanced.even
    have even' := level.even
    exact (flatMap_counts settled options).2 (by omega)
  · intro statements
    exact balanced_iff.mpr (nesting?_flatMap (balanced_iff.mp level) statements options)

end Whole

-----------------------------------------------------------------------------------------
-- Statements and options
-----------------------------------------------------------------------------------------

/-- What is passed over as a statement is a run to its semicolon. -/
theorem skipStatement_run {depth : Nat} {tokens rest : Tokens}
    (h : skipStatement depth tokens = .ok rest)
    : ∃ run, runTo "\x7b" "\x7d" ";" depth tokens = (run, rest) ∧ Settled depth run := by
  fun_induction skipStatement depth tokens with
  | case1 => cases h
  | case2 => cases h
  | case3 depth token others text opens ih =>
      obtain ⟨run, same, settled⟩ := ih h
      have mark : token.text ≠ ";" := by simp [opens]
      refine ⟨token :: run, ?_, settled.opening opens⟩
      simp only [runTo, if_neg text, mark, false_and, if_false, if_pos opens, same]
  | case4 depth token others text opens closes ih =>
      obtain ⟨run, same, settled⟩ := ih h
      have mark : token.text ≠ ";" := by simp [closes.1]
      refine ⟨token :: run, ?_, settled.closing closes.1⟩
      simp only [runTo, if_neg text, mark, false_and, if_false, if_neg opens, if_pos closes.1, same]
  | case5 depth token others text opens closes ends =>
      cases h
      obtain ⟨mark, rfl⟩ := ends
      refine ⟨[token], ?_, .inl ?_⟩
      · rw [runTo, if_neg text, if_pos ⟨mark, rfl⟩]
      · simp [nesting?, mark]
  | case6 depth token others text opens closes ends ih =>
      obtain ⟨run, same, settled⟩ := ih h
      by_cases stray : token.text = "\x7d"
      · have zero : depth = 0 := by simpa [stray] using closes
        have mark : token.text ≠ ";" := by simp [stray]
        subst zero
        refine ⟨token :: run, ?_, Settled.closing stray settled⟩
        simp only [runTo, if_neg text, mark, false_and, if_false, if_neg opens, if_pos stray, same]
      · refine ⟨token :: run, ?_, settled.other opens stray⟩
        simp only [runTo, if_neg text, if_neg ends, if_neg opens, if_neg stray, same]

/-- What is passed over as options is a run to the bracket that closes them. -/
theorem skipBrackets_run {depth : Nat} {tokens rest : Tokens}
    (h : skipBrackets (depth + 1) tokens = .ok rest)
    : ∃ run, runTo "[" "]" "]" depth tokens = (run, rest) := by
  induction tokens generalizing depth with
  | nil => cases h
  | cons token others ih =>
      simp only [skipBrackets, Nat.add_one_ne_zero, if_false, Nat.add_sub_cancel] at h
      by_cases text : token.text = ""
      · rw [if_pos text] at h
        cases h
      rw [if_neg text] at h
      by_cases opens : token.text = "["
      · rw [if_pos opens] at h
        obtain ⟨run, same⟩ := ih h
        exact ⟨token :: run, by simp [runTo, opens, same]⟩
      rw [if_neg opens] at h
      by_cases closes : token.text = "]"
      · rw [if_pos closes] at h
        cases depth with
        | zero =>
            have same : others = rest := by
              cases others <;> simpa [skipBrackets] using h
            exact ⟨[token], by simp [runTo, closes, same]⟩
        | succ depth =>
            obtain ⟨run, same⟩ := ih h
            exact ⟨token :: run, by simp [runTo, closes, same]⟩
      · rw [if_neg closes] at h
        obtain ⟨run, same⟩ := ih h
        exact ⟨token :: run, by simp [runTo, text, opens, closes, same]⟩

end GrpcMock.Proto
