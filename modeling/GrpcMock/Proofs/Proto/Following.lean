import GrpcMock.Proofs.Proto.Places
import GrpcMock.Proofs.Proto.Reading
import GrpcMock.Proofs.Proto.Walk

/-!
Walks that end where readers do. Over tokens the last of which is empty, and only the last, a walk
that follows a reader fails at one of the tokens with the same fault, or stops before the tokens
that the reader leaves.
-/

namespace GrpcMock.Proto

/-- The last token, and only the last, is empty. -/
def Ended (tokens : Tokens) : Prop :=
  ∃ before marker,
    tokens = before ++ [marker] ∧ marker.text = "" ∧ ∀ token ∈ before, token.text ≠ ""

/-- A token is empty if it is the last. -/
theorem Ended.text_eq_empty_iff {tokens : Tokens} (ended : Ended tokens) {index : Nat}
    (inside : index < tokens.length)
    : tokens[index].text = "" ↔ index + 1 = tokens.length := by
  obtain ⟨before, marker, rfl, empty, written⟩ := ended
  have bound : index < before.length + 1 := by simpa using inside
  rw [List.length_append, List.length_singleton, Nat.add_right_cancel_iff]
  rcases Nat.lt_succ_iff_lt_or_eq.mp bound with earlier | rfl
  · rw [List.getElem_append_left earlier]
    exact iff_of_false (written _ (List.getElem_mem earlier)) (Nat.ne_of_lt earlier)
  · exact iff_of_true (by simpa using empty) rfl

/-- The tokens of a text end so. -/
theorem Ended.of_tokenize {text : String} {tokens : Tokens} (h : tokenize text = .ok tokens)
    : Ended tokens := by
  have places : Places [] text.toList (tokenize text) := tokensFrom_places [] text.toList
  rw [h] at places
  obtain ⟨offsets, standing⟩ := places
  exact ⟨tokens.dropLast, _, (List.dropLast_append_getLast? _ standing.final).symm, rfl,
    standing.full⟩

/-- Tokens that end with an empty one are not none. -/
theorem Ended.nonempty {tokens : Tokens} (ended : Ended tokens) : 0 < tokens.length := by
  obtain ⟨before, marker, rfl, -⟩ := ended
  simp

/-- Behind a token that is not empty stands another. -/
theorem Ended.next {tokens : Tokens} (ended : Ended tokens) {index : Nat}
    (inside : index < tokens.length) (text : tokens[index].text ≠ "")
    : index + 1 < tokens.length :=
  Nat.lt_of_le_of_ne inside fun last => text ((ended.text_eq_empty_iff inside).mpr last)

namespace Walk

variable {α β γ δ : Type} {tokens : Tokens} {stops : Nat → Prop} {start : Nat} {walk : Walk α}
  {pack : α → Tokens → β} {result : Except Fault β}

/-- Indices of tokens from a bound on. -/
def Within (tokens : Tokens) (bound stop : Nat) : Prop :=
  bound ≤ stop ∧ stop < tokens.length

/-- A walk ends as a reader does: it comes to an index where it may stop with what is read, and the
tokens from there are left; or it fails at one of the tokens with the same fault. -/
inductive Follows (tokens : Tokens) (stops : Nat → Prop) (start : Nat) (walk : Walk α)
    (pack : α → Tokens → β)
    : Except Fault β → Prop
  | arrives {value : α} {stop : Nat} (allowed : stops stop)
    (run : walk tokens start = some (.ok (value, stop)))
    : Follows tokens stops start walk pack (.ok (pack value (tokens.drop stop)))
  | fails {cause : Cause} {token : Token} (member : token ∈ tokens)
    (run : walk tokens start = some (.error (.fault ⟨cause, token.position⟩)))
    : Follows tokens stops start walk pack (.error ⟨cause, token.position⟩)

-----------------------------------------------------------------------------------------
-- Walks that are put together
-----------------------------------------------------------------------------------------

/-- A walk that stays where it is follows a reader that takes nothing. -/
theorem Follows.pure {value : α} (allowed : stops start)
    : Follows tokens stops start (pure value) pack (.ok (pack value (tokens.drop start))) :=
  .arrives allowed rfl

/-- What stops behind an index stops behind every earlier one. -/
theorem Follows.weaken {bound earlier : Nat}
    (h : Follows tokens (Within tokens bound) start walk pack result) (before : earlier ≤ bound)
    : Follows tokens (Within tokens earlier) start walk pack result := by
  cases h with
  | arrives allowed run => exact .arrives ⟨Nat.le_trans before allowed.1, allowed.2⟩ run
  | fails member run => exact .fails member run

/-- What goes on as another walk does from somewhere ends as it does. -/
theorem Follows.goesOn {later : Walk α} {stop : Nat}
    (h : Follows tokens stops stop later pack result) (same : walk tokens start = later tokens stop)
    : Follows tokens stops start walk pack result := by
  cases h with
  | arrives allowed run => exact .arrives allowed (same.trans run)
  | fails member run => exact .fails member (same.trans run)

/-- A walk goes on from where its first part arrives. -/
theorem bind_of_arrives {next : α → Walk γ} {value : α} {stop : Nat}
    (run : walk tokens start = some (.ok (value, stop)))
    : (walk >>= next) tokens start = next value tokens stop := by
  simp only [Bind.bind, ReaderT.bind, StateT.bind, ExceptT.bind, ExceptT.mk, run]
  rfl

/-- It goes on no more once its first part fails. -/
theorem bind_of_fails {next : α → Walk γ} {halt : Halt}
    (run : walk tokens start = some (.error halt))
    : (walk >>= next) tokens start = some (.error halt) := by
  simp only [Bind.bind, ReaderT.bind, StateT.bind, ExceptT.bind, ExceptT.mk, run]
  rfl

/-- One walk after another follows one reader after another. -/
theorem Follows.bind {between : Nat → Prop} {next : α → Walk γ} {packNext : γ → Tokens → δ}
    {nextResult : β → Except Fault δ}
    (first : Follows tokens between start walk pack result)
    (second
      : ∀ value stop,
          between stop
          → Follows tokens stops stop (next value) packNext
              (nextResult (pack value (tokens.drop stop))))
    : Follows tokens stops start (walk >>= next) packNext (result >>= nextResult) := by
  cases first with
  | arrives allowed run => exact (second _ _ allowed).goesOn (bind_of_arrives run)
  | fails member run => exact .fails member (bind_of_fails run)

/-- The same if more comes after the second reader. -/
theorem Follows.bindThen {ε : Type} {between : Nat → Prop} {next : α → Walk γ}
    {packNext : γ → Tokens → ε} {nextResult : β → Except Fault δ} {last : δ → Except Fault ε}
    (first : Follows tokens between start walk pack result)
    (second
      : ∀ value stop,
          between stop
          → Follows tokens stops stop (next value) packNext
              (nextResult (pack value (tokens.drop stop)) >>= last))
    : Follows tokens stops start (walk >>= next) packNext ((result >>= nextResult) >>= last) := by
  rw [bind_assoc]
  exact first.bind second

/-- A walk may change the value that it brings. -/
theorem Follows.map {value : α → γ} {packNext : γ → Tokens → δ} {f : β → δ}
    (h : Follows tokens stops start walk pack result)
    (same : ∀ item left, f (pack item left) = packNext (value item) left)
    : Follows tokens stops start (do let item ← walk; Pure.pure (value item)) packNext
        (result.map f) := by
  have mapped : result.map f = result >>= fun item => .ok (f item) := by cases result <;> rfl
  rw [mapped]
  refine h.bind fun item stop allowed => ?_
  rw [same]
  exact .pure allowed

-----------------------------------------------------------------------------------------
-- Looking at a token
-----------------------------------------------------------------------------------------

section Looking

variable {next : Token → Walk α} {test : String → Bool} {P : Prop} [Decidable P] {yes no : Walk α}
  {taken other : Except Fault β}

/-- The end of the text is the token without a text. -/
theorem isEnd_iff {text : String} : isEnd text ↔ text = "" :=
  beq_iff_eq

/-- The token under the cursor is looked at without a step. -/
theorem run_current (inside : start < tokens.length)
    : current tokens start = some (.ok (tokens[start], start)) := by
  have clamped : min start (tokens.length - 1) = start := by omega
  have found : tokens[min start (tokens.length - 1)]? = some tokens[start] := by
    rw [clamped, List.getElem?_eq_getElem inside]
  have all : (read : Walk Tokens) tokens start = some (.ok (tokens, start)) := rfl
  have place : (get : Walk Nat) tokens start = some (.ok (start, start)) := rfl
  refine (bind_of_arrives all).trans ((bind_of_arrives place).trans ?_)
  rw [found]
  rfl

/-- So a walk that looks at it follows whatever it follows with that token. -/
theorem Follows.current (inside : start < tokens.length)
    (h : Follows tokens stops start (next tokens[start]) pack result)
    : Follows tokens stops start (current >>= next) pack result :=
  h.goesOn (bind_of_arrives (run_current inside))

/-- A walk that fails at a token follows a reader that does, with the same cause. -/
theorem Follows.failAt {token : Token} (member : token ∈ tokens) (cause : Cause)
    : Follows tokens stops start (failAt (α := α) token cause) pack
        (.error ⟨cause, token.position⟩) :=
  .fails member rfl

/-- So does one that fails at the token under the cursor. -/
theorem Follows.fail (inside : start < tokens.length) (cause : String → Cause)
    : Follows tokens stops start (fail (α := α) cause) pack
        (.error ⟨cause tokens[start].text, tokens[start].position⟩) :=
  .current inside (.failAt (List.getElem_mem inside) _)

/-- A test of the token under the cursor takes no step. -/
theorem run_peek (test : String → Bool) (inside : start < tokens.length)
    : peek test tokens start = some (.ok (test tokens[start].text, start)) :=
  bind_of_arrives (run_current inside)

/-- A token is eaten if it passes a test, which takes one step. -/
theorem run_eat (test : String → Bool) (inside : start < tokens.length)
    : eat test tokens start
      = if test tokens[start].text then some (.ok (true, start + 1))
        else some (.ok (false, start)) := by
  refine (bind_of_arrives (run_peek test inside)).trans ?_
  cases test tokens[start].text <;> rfl

/-- A test of the current token decides as a condition of a reader does. -/
theorem Follows.peek (inside : start < tokens.length) (same : test tokens[start].text ↔ P)
    (passed : P → Follows tokens stops start yes pack taken)
    (missed : ¬P → Follows tokens stops start no pack other)
    : Follows tokens stops start (do if ← peek test then yes else no) pack
        (if P then taken else other) := by
  have looked := run_peek test inside
  by_cases holds : P
  · rw [same.mpr holds] at looked
    rw [if_pos holds]
    exact (passed holds).goesOn (bind_of_arrives looked)
  · rw [Bool.eq_false_iff.mpr (mt same.mp holds)] at looked
    rw [if_neg holds]
    exact (missed holds).goesOn (bind_of_arrives looked)

/-- A token that passes a test is gone past, and as no empty one does another stands behind it. -/
theorem Follows.eat (ended : Ended tokens) (inside : start < tokens.length)
    (proper : test "" = false) (same : test tokens[start].text ↔ P)
    (passed : P → start + 1 < tokens.length → Follows tokens stops (start + 1) yes pack taken)
    (missed : ¬P → Follows tokens stops start no pack other)
    : Follows tokens stops start (do if ← eat test then yes else no) pack
        (if P then taken else other) := by
  have looked := run_eat test inside
  by_cases holds : P
  · have text : tokens[start].text ≠ "" := by
      intro empty
      simpa [empty, proper] using same.mpr holds
    rw [if_pos (same.mpr holds)] at looked
    rw [if_pos holds]
    exact (passed holds (ended.next inside text)).goesOn (bind_of_arrives looked)
  · rw [if_neg (mt same.mp holds)] at looked
    rw [if_neg holds]
    exact (missed holds).goesOn (bind_of_arrives looked)

/-- Any token but the last may be gone past. -/
theorem Follows.forward {next : Walk α}
    (h : Follows tokens stops (start + 1) next pack result)
    : Follows tokens stops start (do forward; next) pack result :=
  h.goesOn rfl

end Looking

-----------------------------------------------------------------------------------------
-- Single tokens
-----------------------------------------------------------------------------------------

section Wanted

variable (wanted : Want)

/-- A token that is wanted is taken, and any other is a fault at its place. -/
theorem run_expect (inside : start < tokens.length)
    : expect wanted tokens start
      = if wanted.accepts tokens[start].text then some (.ok (tokens[start], start + 1))
        else
          some (.error (.fault ⟨.expected wanted tokens[start].text, tokens[start].position⟩)) := by
  refine (bind_of_arrives (run_current inside)).trans ?_
  have looked := run_eat wanted.accepts inside
  split
  · rename_i accepted
    rw [if_pos accepted] at looked
    exact bind_of_arrives looked
  · rename_i refused
    rw [if_neg refused] at looked
    exact bind_of_arrives looked

variable {wanted} (ended : Ended tokens) (inside : start < tokens.length)
  (proper : wanted.accepts "" = false)

include ended inside proper

/-- What comes after a token that is wanted goes on behind it. -/
theorem Follows.expecting {next : Token → Walk α} {nextResult : Token × Tokens → Except Fault β}
    (second
      : start + 1 < tokens.length
        → Follows tokens stops (start + 1) (next tokens[start]) pack
            (nextResult (tokens[start], tokens.drop (start + 1))))
    : Follows tokens stops start (do let token ← expect wanted; next token) pack
        (Proto.expect wanted (tokens.drop start) >>= nextResult) := by
  have run := run_expect wanted inside
  rw [List.drop_eq_getElem_cons inside, Proto.expect]
  split
  · rename_i accepted
    have text : tokens[start].text ≠ "" := by
      intro empty
      simp [empty, proper] at accepted
    rw [if_pos accepted] at run
    exact (second (ended.next inside text)).goesOn (bind_of_arrives run)
  · rename_i refused
    rw [if_neg refused] at run
    exact .fails (List.getElem_mem inside) (bind_of_fails run)

/-- Taking a token follows the reader of one, as nothing that is wanted is empty. -/
theorem expect_follows
    : Follows tokens (Within tokens (start + 1)) start (expect wanted) Prod.mk
        (Proto.expect wanted (tokens.drop start)) := by
  rw [← bind_pure (expect wanted), ← bind_pure (Proto.expect wanted (tokens.drop start))]
  exact Follows.expecting ended inside proper fun more => .pure ⟨Nat.le_refl _, more⟩

end Wanted

/-- What an integer is read as, once it is there. -/
def integerOf : Token × Tokens → Except Fault (Int32 × Tokens)
  | (token, rest) =>
      match Decimal.Range.int32.read? token.text.toList with
      | none => .error ⟨.invalidInteger token.text, token.position⟩
      | some value => .ok (Int32.ofInt value, rest)

/-- An integer is read by taking its token and then looking at its digits. -/
theorem expectInteger_eq (tokens : Tokens)
    : expectInteger tokens = Proto.expect .integer tokens >>= integerOf := by
  unfold expectInteger
  cases Proto.expect .integer tokens <;> rfl

/-- What a string is read as, once it is there. -/
def stringOf : Token × Tokens → Except Fault (String × Position × Tokens)
  | (token, rest) =>
      match Text.unquote? token.text with
      | none => .error ⟨.invalidString token.text, token.position⟩
      | some text => .ok (text, token.position, rest)

/-- A string is read by taking its token and then taking off its quotes. -/
theorem expectString_eq (tokens : Tokens)
    : expectString tokens = Proto.expect .string tokens >>= stringOf := by
  unfold expectString
  cases Proto.expect .string tokens <;> rfl

section Readers

variable (ended : Ended tokens) (inside : start < tokens.length)

include ended inside

/-- Taking a word follows the reader of one. -/
theorem expectWord_follows {word : String} (proper : (Want.word word).accepts "" = false)
    : Follows tokens (Within tokens (start + 1)) start (expectWord word) (fun _ left => left)
        (Proto.expectWord word (tokens.drop start)) := by
  have shorter
      : Proto.expectWord word (tokens.drop start)
        = (Proto.expect (.word word) (tokens.drop start)).map Prod.snd := by
    unfold Proto.expectWord
    cases Proto.expect (.word word) (tokens.drop start) <;> rfl
  rw [shorter]
  exact (expect_follows ended inside proper).map fun _ _ => rfl

/-- Taking an integer follows the reader of one, which fails at the same token if it is out of
range. -/
theorem integer_follows
    : Follows tokens (Within tokens (start + 1)) start integer Prod.mk
        (expectInteger (tokens.drop start)) := by
  rw [expectInteger_eq]
  refine .expecting ended inside rfl fun more => ?_
  dsimp only [integerOf]
  cases Decimal.Range.int32.read? tokens[start].text.toList with
  | none => exact .failAt (List.getElem_mem inside) _
  | some value => exact .pure ⟨Nat.le_refl _, more⟩

/-- Taking a string follows the reader of one, which also tells where it stood. -/
theorem string_follows
    : Follows tokens (Within tokens (start + 1)) start string
        (fun text left => (text, tokens[start].position, left))
        (expectString (tokens.drop start)) := by
  rw [expectString_eq]
  refine .expecting ended inside rfl fun more => ?_
  dsimp only [stringOf]
  cases Text.unquote? tokens[start].text with
  | none => exact .failAt (List.getElem_mem inside) _
  | some text => exact .arrives ⟨Nat.le_refl _, more⟩ rfl

end Readers

-----------------------------------------------------------------------------------------
-- What is passed over
-----------------------------------------------------------------------------------------

/-- What comes after a choice comes after either side of it. -/
theorem ite_bind {P : Prop} [Decidable P] {left right : Except Fault β} {next : β → Except Fault δ}
    : (if P then left else right) >>= next = if P then left >>= next else right >>= next := by
  split <;> rfl

/-- What a step yields may be turned into something else before or in the next step. -/
theorem map_bind {f : β → γ} {next : γ → Except Fault δ}
    : result.map f >>= next = result >>= fun value => next (f value) := by
  cases result <;> rfl

/-- One round of passing over a statement: how many braces are open after it, if it goes on. -/
def statementStep (depth : Nat) : Tokens → Except Fault (Option Nat × Tokens)
  | [] => .error (unexpected [])
  | token :: rest =>
      if token.text = "" then .error (unexpected (token :: rest))
      else if token.text = "\x7b" then .ok (some (depth + 1), rest)
      else if token.text = "\x7d" ∧ 0 < depth then .ok (some (depth - 1), rest)
      else if token.text = ";" ∧ depth = 0 then .ok (none, rest)
      else .ok (some depth, rest)

/-- A statement is passed over by one round and, unless that ends it, by further ones. -/
theorem skipStatement_eq (depth : Nat) (tokens : Tokens)
    : Proto.skipStatement depth tokens
      = statementStep depth tokens >>= fun
          | (none, rest) => .ok rest
          | (some depth, rest) => Proto.skipStatement depth rest := by
  cases tokens with
  | nil => rfl
  | cons token rest =>
      rw [Proto.skipStatement, statementStep]
      simp only [ite_bind]
      rfl

/-- One round of passing over options: how many brackets are open after it. -/
def bracketsStep (depth : Nat) : Tokens → Except Fault (Nat × Tokens)
  | [] => .error (unexpected [])
  | token :: rest =>
      if token.text = "" then .error (unexpected (token :: rest))
      else if token.text = "[" then .ok (depth + 1, rest)
      else if token.text = "]" then .ok (depth - 1, rest)
      else .ok (depth, rest)

/-- Open brackets are passed over by one round and further ones. -/
theorem skipBrackets_eq {depth : Nat} (openBrackets : depth ≠ 0) (tokens : Tokens)
    : Proto.skipBrackets depth tokens
      = bracketsStep depth tokens >>= fun (depth, rest) => Proto.skipBrackets depth rest := by
  cases tokens with
  | nil =>
      rw [Proto.skipBrackets, if_neg openBrackets]
      rfl
  | cons token rest =>
      rw [Proto.skipBrackets, if_neg openBrackets, bracketsStep]
      simp only [ite_bind]
      rfl

section Skipping

variable (ended : Ended tokens)

include ended

/-- A round of passing over a statement follows the one of the reader, by cases on the token. -/
theorem statementRound_follows (inside : start < tokens.length) (depth : Nat)
    : Follows tokens (Within tokens (start + 1)) start (statementRound depth) Prod.mk
        (statementStep depth (tokens.drop start)) := by
  rw [List.drop_eq_getElem_cons inside]
  refine .peek inside isEnd_iff (fun _ => .fail inside _) fun text => ?_
  have more := ended.next inside text
  refine .eat ended inside rfl beq_iff_eq (fun _ _ => .pure ⟨Nat.le_refl _, more⟩) fun _ => ?_
  refine .eat ended inside (by simp) (by simp [and_comm])
    (fun _ _ => .pure ⟨Nat.le_refl _, more⟩) fun _ => ?_
  refine .eat ended inside (by simp) (by simp [and_comm])
    (fun _ _ => .pure ⟨Nat.le_refl _, more⟩) fun _ => ?_
  exact .forward (.pure ⟨Nat.le_refl _, more⟩)

/-- So does a round of passing over options. -/
theorem bracketsRound_follows (inside : start < tokens.length) (depth : Nat)
    : Follows tokens (Within tokens (start + 1)) start (bracketsRound depth) Prod.mk
        (bracketsStep depth (tokens.drop start)) := by
  rw [List.drop_eq_getElem_cons inside]
  refine .peek inside isEnd_iff (fun _ => .fail inside _) fun text => ?_
  have more := ended.next inside text
  refine .eat ended inside rfl beq_iff_eq (fun _ _ => .pure ⟨Nat.le_refl _, more⟩) fun _ => ?_
  refine .eat ended inside rfl beq_iff_eq (fun _ _ => .pure ⟨Nat.le_refl _, more⟩) fun _ => ?_
  exact .forward (.pure ⟨Nat.le_refl _, more⟩)

/-- By induction on the rounds: each takes a token, and there are as many as tokens. -/
theorem skipStatement_follows {rounds : Nat} (inside : start < tokens.length)
    (enough : tokens.length ≤ start + rounds) (depth : Nat)
    : Follows tokens (Within tokens (start + 1)) start (skipStatement rounds depth)
        (fun _ left => left) (Proto.skipStatement depth (tokens.drop start)) := by
  induction rounds generalizing start depth with
  | zero => omega
  | succ rounds ih =>
      rw [skipStatement, skipStatement_eq]
      refine (statementRound_follows ended inside depth).bind fun next stop ⟨ahead, more⟩ => ?_
      cases next with
      | none => exact .pure ⟨ahead, more⟩
      | some depth => exact (ih more (by omega) depth).weaken (by omega)

/-- By induction on the rounds: each takes a token, and there are as many as tokens. -/
theorem skipBrackets_follows {rounds : Nat} (inside : start < tokens.length)
    (enough : tokens.length ≤ start + rounds) (depth : Nat)
    : Follows tokens (Within tokens start) start (skipBrackets rounds depth) (fun _ left => left)
        (Proto.skipBrackets depth (tokens.drop start)) := by
  induction rounds generalizing start depth with
  | zero => omega
  | succ rounds ih =>
      rw [skipBrackets]
      by_cases none : depth = 0
      · subst none
        have done : Proto.skipBrackets 0 (tokens.drop start) = .ok (tokens.drop start) := by
          cases tokens.drop start <;> rfl
        rw [done, if_pos rfl]
        exact .pure ⟨Nat.le_refl _, inside⟩
      · rw [if_neg none, skipBrackets_eq none]
        refine (bracketsRound_follows ended inside depth).bind fun next stop ⟨ahead, more⟩ => ?_
        exact (ih more (by omega) next).weaken (by omega)

/-- Options are passed over alike, with as many rounds as there are tokens left. -/
theorem skipOptions_follows {rounds : Nat} (inside : start < tokens.length)
    (enough : tokens.length ≤ start + rounds)
    : Follows tokens (Within tokens start) start (skipOptions rounds) (fun _ left => left)
        (Proto.skipOptions (tokens.drop start)) := by
  have front := List.drop_eq_getElem_cons inside
  rw [front, Proto.skipOptions]
  refine .eat ended inside rfl beq_iff_eq (fun _ more => ?_) fun _ => ?_
  · exact (skipBrackets_follows ended more (by omega) 1).weaken (by omega)
  · rw [← front]
    exact .pure ⟨Nat.le_refl _, inside⟩

/-- The equals sign and the number are taken before any round is needed. -/
theorem number_follows {rounds : Nat} (inside : start < tokens.length)
    (enough : tokens.length ≤ start + 1 + rounds) {closing : String}
    (proper : (Want.word closing).accepts "" = false)
    : Follows tokens (Within tokens (start + 1)) start (number rounds closing) Prod.mk
        (readNumber closing (tokens.drop start)) := by
  refine (expectWord_follows ended inside rfl).bind fun _ stop ⟨ahead, inside⟩ => ?_
  refine (integer_follows ended inside).bind fun number stop ⟨ahead, inside⟩ => ?_
  refine (skipOptions_follows ended inside (by omega)).bind fun _ stop ⟨ahead, inside⟩ => ?_
  refine (expectWord_follows ended inside proper).bind fun _ stop ⟨ahead, inside⟩ => ?_
  exact .pure ⟨by omega, inside⟩

end Skipping

end Walk

end GrpcMock.Proto
