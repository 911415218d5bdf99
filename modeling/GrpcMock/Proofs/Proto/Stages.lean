import GrpcMock.Proofs.Proto.Reading
import GrpcMock.Proofs.Proto.Segments
import GrpcMock.Proofs.Proto.Written

/-!
Stages of reading a file, from one segment to the next. Outside of statements and options a file is
read brace by brace, so that there its braces are balanced whatever is passed over.
-/

namespace GrpcMock.Proto

/-- Where reading stands: whether a statement can begin, how many braces are open outside of
statements and options, and which tokens are left. -/
structure Stage where
  atFront : Bool
  depth : Nat
  left : Tokens

/-- Reading gets from one stage to another by taking whole segments. -/
def Reads (before after : Stage) : Prop :=
  ∃ taken,
    segments before.atFront before.left = taken ++ segments after.atFront after.left
    ∧ nesting? before.depth (kept taken) = some after.depth
    ∧ ∀ run, .statement run ∈ taken → Settled 0 run

variable {front : Bool} {depth : Nat} {token : Token} {tokens rest : Tokens}

/-- To stay at a stage is to take no segments. -/
theorem Reads.refl (stage : Stage) : Reads stage stage :=
  ⟨[], rfl, rfl, fun _ member => nomatch member⟩

/-- The segments of two ways that follow each other make up one way. -/
theorem Reads.trans {before between after : Stage} (first : Reads before between)
    (second : Reads between after)
    : Reads before after := by
  obtain ⟨left, sameLeft, levelLeft, settledLeft⟩ := first
  obtain ⟨right, sameRight, levelRight, settledRight⟩ := second
  refine ⟨left ++ right, by rw [sameLeft, sameRight, List.append_assoc], ?_, ?_⟩
  · rw [kept, List.filterMap_append, nesting?_append]
    exact Option.bind_eq_some_iff.mpr ⟨_, levelLeft, levelRight⟩
  · intro run member
    rcases List.mem_append.mp member with here | there
    · exact settledLeft run here
    · exact settledRight run there

/-- A token that counts by itself. -/
theorem Reads.single {after : Nat} (text : token.text ≠ "")
    (free : (front && isPassedOver token.text) = false) (bracket : token.text ≠ "[")
    (level : nesting? depth [token] = some after)
    : Reads ⟨front, depth, token :: rest⟩ ⟨isBoundary token.text, after, rest⟩ := by
  refine ⟨[.token token], ?_, level, by simp⟩
  rw [segments, if_neg text, free, if_neg Bool.false_ne_true, if_neg bracket]
  rfl

/-- A statement that is passed over. -/
theorem Reads.statement {left : Tokens} (word : isPassedOver token.text)
    (h : skipStatement 0 rest = .ok left)
    : Reads ⟨true, depth, token :: rest⟩ ⟨true, depth, left⟩ := by
  obtain ⟨run, same, settled⟩ := skipStatement_run h
  have text : token.text ≠ "" := by
    intro empty
    simp [isPassedOver, empty] at word
  refine ⟨[.token token, .statement run], ?_, ?_, by simpa using settled⟩
  · rw [segments, if_neg text, word, Bool.and_self, if_pos rfl, same]
    rfl
  · have braces : token.text ≠ "\x7b" ∧ token.text ≠ "\x7d" := by
      constructor <;> intro brace <;> simp [isPassedOver, brace] at word
    simp [kept, nesting?, braces]

/-- The options of a field, if there are any. -/
theorem Reads.options (h : skipOptions tokens = .ok rest)
    : Reads ⟨false, depth, tokens⟩ ⟨false, depth, rest⟩ := by
  cases tokens with
  | nil =>
      cases h
      exact .refl _
  | cons token others =>
      rw [skipOptions] at h
      split at h
      · rename_i bracket
        obtain ⟨run, same⟩ := skipBrackets_run h
        refine ⟨[.token token, .options run], ?_, by simp [kept, nesting?, bracket], by simp⟩
        simp [segments, bracket, same]
      · cases h
        exact .refl _

-----------------------------------------------------------------------------------------
-- Single tokens
-----------------------------------------------------------------------------------------

/-- The texts that end or begin something. -/
def marks : List String :=
  ["", "[", ";", "\x7b", "\x7d"]

/-- Nothing that ends or begins something can be read as what is wanted. -/
def Want.isPlain (want : Want) : Bool :=
  marks.all fun mark => !want.accepts mark

/-- A token that is taken is the first one and has a text that is wanted. -/
theorem expect_eq_ok {want : Want} (h : expect want tokens = .ok (token, rest))
    : tokens = token :: rest ∧ want.accepts token.text := by
  refine ⟨?_, expect_accepts h⟩
  cases tokens with
  | nil => cases h
  | cons first others =>
      rw [expect] at h
      split at h
      · cases h
        rfl
      · cases h

/-- A plain token is none of the marks. -/
theorem expect_ne {want : Want} (plain : want.isPlain)
    (h : expect want tokens = .ok (token, rest))
    : token.text ≠ "" ∧ token.text ≠ "[" ∧ token.text ≠ ";" ∧ token.text ≠ "\x7b"
      ∧ token.text ≠ "\x7d" := by
  have other : ∀ mark ∈ marks, token.text ≠ mark := by
    intro mark among same
    have refused := List.all_eq_true.mp plain mark among
    rw [← same, expect_accepts h] at refused
    cases refused
  simpa [marks] using other

/-- A number is taken as a token of its own. -/
theorem expect_of_expectInteger {number : Int32} (h : expectInteger tokens = .ok (number, rest))
    : ∃ token, expect .integer tokens = .ok (token, rest) := by
  unfold expectInteger at h
  split at h
  · cases h
  · rename_i taken
    split at h
    · cases h
    · cases h
      exact ⟨_, taken⟩

/-- So is a literal. -/
theorem expect_of_expectString {text : String} {position : Position}
    (h : expectString tokens = .ok (text, position, rest))
    : ∃ token, expect .string tokens = .ok (token, rest) := by
  unfold expectString at h
  split at h
  · cases h
  · rename_i taken
    split at h
    · cases h
    · cases h
      exact ⟨_, taken⟩

/-- A word that is taken is the text of the first token. -/
theorem expectWord_eq_ok {word : String} (h : expectWord word tokens = .ok rest)
    : ∃ token, tokens = token :: rest ∧ token.text = word := by
  unfold expectWord at h
  split at h
  · cases h
  · rename_i taken
    cases h
    obtain ⟨same, accepted⟩ := expect_eq_ok taken
    exact ⟨_, same, eq_of_beq accepted⟩

/-- A plain token, where it does not begin a statement. -/
theorem Reads.expect {want : Want} (plain : want.isPlain)
    (free : (front && isPassedOver token.text) = false)
    (h : expect want tokens = .ok (token, rest))
    : Reads ⟨front, depth, tokens⟩ ⟨false, depth, rest⟩ := by
  obtain ⟨text, bracket, semicolon, opens, closes⟩ := expect_ne plain h
  obtain ⟨rfl, -⟩ := expect_eq_ok h
  have level : nesting? depth [token] = some depth := by simp [nesting?, opens, closes]
  have inside : isBoundary token.text = false := by
    simp [isBoundary, semicolon, opens, closes]
  have step : Reads ⟨front, depth, token :: rest⟩ ⟨isBoundary token.text, depth, rest⟩ :=
    .single text free bracket level
  rwa [inside] at step

/-- A plain word, where it does not begin a statement. -/
theorem Reads.word {word : String} (plain : (Want.word word).isPlain)
    (free : (front && isPassedOver word) = false) (h : expectWord word tokens = .ok rest)
    : Reads ⟨front, depth, tokens⟩ ⟨false, depth, rest⟩ := by
  obtain ⟨token, rfl, rfl⟩ := expectWord_eq_ok h
  exact Reads.expect plain free (by simp [Proto.expect, Want.accepts])

/-- A token that a statement can begin after. -/
theorem Reads.boundary {after : Nat} (ends : isBoundary token.text)
    (level : nesting? depth [token] = some after)
    : Reads ⟨front, depth, token :: rest⟩ ⟨true, after, rest⟩ := by
  have text : (token.text = ";" ∨ token.text = "\x7b") ∨ token.text = "\x7d" := by
    simpa [isBoundary] using ends
  have step : Reads ⟨front, depth, token :: rest⟩ ⟨isBoundary token.text, after, rest⟩ := by
    refine .single ?_ ?_ ?_ level
    all_goals rcases text with (text | text) | text <;> simp [text, isPassedOver]
  rwa [ends] at step

/-- After a semicolon a statement can begin. -/
theorem Reads.semicolon (text : token.text = ";")
    : Reads ⟨front, depth, token :: rest⟩ ⟨true, depth, rest⟩ :=
  .boundary (by simp [isBoundary, text]) (by simp [nesting?, text])

/-- After an opening brace one more is open. -/
theorem Reads.opening (text : token.text = "\x7b")
    : Reads ⟨front, depth, token :: rest⟩ ⟨true, depth + 1, rest⟩ :=
  .boundary (by simp [isBoundary, text]) (by simp [nesting?, text])

/-- After a closing brace one less is open. -/
theorem Reads.closing (text : token.text = "\x7d")
    : Reads ⟨front, depth + 1, token :: rest⟩ ⟨true, depth, rest⟩ :=
  .boundary (by simp [isBoundary, text]) (by simp [nesting?, text])

/-- The same goes for a semicolon that is asked for. -/
theorem Reads.expectSemicolon (h : expectWord ";" tokens = .ok rest)
    : Reads ⟨front, depth, tokens⟩ ⟨true, depth, rest⟩ := by
  obtain ⟨token, rfl, text⟩ := expectWord_eq_ok h
  exact .semicolon text

/-- The same goes for an opening brace that is asked for. -/
theorem Reads.expectOpening (h : expectWord "\x7b" tokens = .ok rest)
    : Reads ⟨front, depth, tokens⟩ ⟨true, depth + 1, rest⟩ := by
  obtain ⟨token, rfl, text⟩ := expectWord_eq_ok h
  exact .opening text

/-- A keyword that begins no statement that is passed over. -/
theorem Reads.keyword {word : String} (text : token.text = word) (plain : (Want.word word).isPlain)
    (free : isPassedOver word = false)
    : Reads ⟨true, depth, token :: rest⟩ ⟨false, depth, rest⟩ := by
  refine Reads.word plain (by simpa using free) ?_
  simp [expectWord, Proto.expect, Want.accepts, text]

/-- The number of a field or value is read on one level, up to the sign that closes it. -/
theorem Reads.readNumber {closing : String} {number : Int32}
    (h : readNumber closing tokens = .ok (number, rest))
    : ∃ before,
        Reads ⟨false, depth, tokens⟩ ⟨false, depth, before⟩
        ∧ expectWord closing before = .ok rest := by
  simp only [Proto.readNumber, bind_eq_ok, pure_eq_ok, Prod.mk.injEq] at h
  obtain ⟨_, equals, ⟨value, _⟩, integer, before, options, _, closed, -, rfl⟩ := h
  obtain ⟨_, taken⟩ := expect_of_expectInteger integer
  refine ⟨before, ?_, closed⟩
  refine .trans (.word rfl rfl equals) (.trans (.expect rfl rfl taken) ?_)
  exact .options options

-----------------------------------------------------------------------------------------
-- Enums and services
-----------------------------------------------------------------------------------------

/-- How many braces are open after an item of a body, of which there is at least one before it. -/
def Step.nesting {α : Type} (outside : Nat) : Step α → Nat
  | .close => outside
  | _ => outside + 1

/-- A body is read to the brace that closes it, if each item is read as a whole. -/
theorem Reads.all {α : Type} {reader : ItemReader α} {values : List α}
    (each
      : ∀ {tokens step rest},
          reader.read tokens = .ok (step, rest)
          → Reads ⟨true, depth + 1, tokens⟩ ⟨true, step.nesting depth, rest⟩)
    (h : reader.all tokens = .ok (values, rest))
    : Reads ⟨true, depth + 1, tokens⟩ ⟨true, depth, rest⟩ := by
  fun_induction reader.all tokens generalizing values rest with
  | case1 => cases h
  | case2 tokens left read =>
      cases h
      exact each read
  | case3 tokens left read _ ih => exact .trans (each read) (ih h)
  | case4 => cases h
  | case5 tokens value left read _ others after read' ih =>
      cases h
      exact .trans (each read) (ih read')

/-- An item of an enum is read on its level, unless it is the brace that closes the enum. -/
theorem Reads.readValue {step : Step Field} (h : readValue tokens = .ok (step, rest))
    : Reads ⟨true, depth + 1, tokens⟩ ⟨true, step.nesting depth, rest⟩ := by
  cases tokens with
  | nil => cases h
  | cons token others =>
      rw [Proto.readValue] at h
      split at h
      · rename_i text
        cases h
        exact .closing text
      split at h
      · cases h
      split at h
      · rename_i text
        cases h
        exact .semicolon text
      split at h
      · rename_i word
        obtain ⟨_, passed, same⟩ := map_eq_ok.mp h
        cases same
        have passes : isPassedOver token.text := by simpa [isPassedOver, or_assoc] using word
        exact .statement passes passed
      · rename_i word
        simp only [bind_eq_ok, pure_eq_ok, Prod.mk.injEq] at h
        obtain ⟨⟨name, _⟩, named, ⟨number, _⟩, numbered, rfl, rfl⟩ := h
        obtain ⟨before, read, closed⟩ := Reads.readNumber numbered
        have free : isPassedOver name.text = false := by
          obtain ⟨same, -⟩ := expect_eq_ok named
          cases same
          simpa [isPassedOver, not_or, and_assoc] using word
        refine .trans (.expect rfl (by simpa using free) named) ?_
        exact .trans read (.expectSemicolon closed)

/-- So is an item between the braces of a method. -/
theorem Reads.readMethodOption {step : Step Empty}
    (h : readMethodOption tokens = .ok (step, rest))
    : Reads ⟨true, depth + 1, tokens⟩ ⟨true, step.nesting depth, rest⟩ := by
  cases tokens with
  | nil => cases h
  | cons token others =>
      rw [Proto.readMethodOption] at h
      split at h
      · rename_i text
        cases h
        exact .closing text
      split at h
      · cases h
      split at h
      · rename_i text
        cases h
        exact .semicolon text
      · simp only [bind_eq_ok, pure_eq_ok, Prod.mk.injEq] at h
        obtain ⟨_, keyword, _, passed, rfl, rfl⟩ := h
        obtain ⟨_, same, text⟩ := expectWord_eq_ok keyword
        cases same
        have passes : isPassedOver token.text := by simp [isPassedOver, text]
        exact .statement passes passed

/-- A method ends on the level that it stands on, with a semicolon or with braces. -/
theorem Reads.endMethod (h : endMethod tokens = .ok rest)
    : Reads ⟨false, depth, tokens⟩ ⟨true, depth, rest⟩ := by
  cases tokens with
  | nil => exact .expectSemicolon h
  | cons token others =>
      rw [Proto.endMethod] at h
      split at h
      · rename_i text
        obtain ⟨_, read, rfl⟩ := map_eq_ok.mp h
        exact .trans (.opening text) (.all .readMethodOption read)
      · exact .expectSemicolon h

/-- A type in parentheses is read on one level. -/
theorem Reads.readTypeInParens {type : String} (h : readTypeInParens tokens = .ok (type, rest))
    : Reads ⟨false, depth, tokens⟩ ⟨false, depth, rest⟩ := by
  simp only [Proto.readTypeInParens, bind_eq_ok, pure_eq_ok, Prod.mk.injEq] at h
  obtain ⟨_, opens, _, -, ⟨_, _⟩, typed, _, closes, -, rfl⟩ := h
  exact .trans (.word rfl rfl opens)
    (.trans (.expect rfl rfl typed) (.word rfl rfl closes))

/-- An item of a service is read on its level, unless it is the brace that closes the service. -/
theorem Reads.readMethod {step : Step Rpc} (h : readMethod tokens = .ok (step, rest))
    : Reads ⟨true, depth + 1, tokens⟩ ⟨true, step.nesting depth, rest⟩ := by
  cases tokens with
  | nil => cases h
  | cons token others =>
      rw [Proto.readMethod] at h
      split at h
      · rename_i text
        cases h
        exact .closing text
      split at h
      · rename_i text
        cases h
        exact .semicolon text
      split at h
      · rename_i word
        obtain ⟨_, passed, same⟩ := map_eq_ok.mp h
        cases same
        have passes : isPassedOver token.text := by simp [isPassedOver, word]
        exact .statement passes passed
      · simp only [bind_eq_ok, pure_eq_ok, Prod.mk.injEq] at h
        obtain ⟨_, keyword, ⟨_, _⟩, named, ⟨_, _⟩, input, _, returns, ⟨_, _⟩, output, _, ends, rfl,
          rfl⟩ := h
        refine .trans (.word rfl rfl keyword) ?_
        refine .trans (.expect rfl rfl named) ?_
        refine .trans (.readTypeInParens input) (.trans (.word rfl rfl returns) ?_)
        exact .trans (.readTypeInParens output) (.endMethod ends)

/-- An enum is read from its name to its closing brace, which leads back to the level it began
on. -/
theorem Reads.readEnum {scope : String} {enum : Definition}
    (h : readEnum scope tokens = .ok (enum, rest))
    : Reads ⟨false, depth, tokens⟩ ⟨true, depth, rest⟩ := by
  simp only [Proto.readEnum, bind_eq_ok, pure_eq_ok, Prod.mk.injEq] at h
  obtain ⟨⟨_, _⟩, named, _, opens, ⟨_, _⟩, values, -, rfl⟩ := h
  refine .trans (.expect rfl rfl named) ?_
  exact .trans (.expectOpening opens) (.all .readValue values)

-----------------------------------------------------------------------------------------
-- Messages
-----------------------------------------------------------------------------------------

/-- How many braces are open after an item of a message, of which there is at least one before it.
-/
def MessageItem.nesting (outside : Nat) : MessageItem → Nat
  | .close => outside
  | .message _ _ => outside + 2
  | _ => outside + 1

variable {scope : String} {item : MessageItem}

/-- A map field is read on the level of its message. -/
theorem Reads.readMapField (h : readMapField scope tokens = .ok (item, rest))
    : Reads ⟨false, depth + 1, tokens⟩ ⟨true, item.nesting depth, rest⟩ := by
  simp only [Proto.readMapField, bind_eq_ok, pure_eq_ok, Prod.mk.injEq] at h
  obtain ⟨_, opens, ⟨_, _⟩, key, _, comma, ⟨_, _⟩, value, _, closes, ⟨_, _⟩, named, ⟨_, _⟩,
    numbered, rfl, rfl⟩ := h
  obtain ⟨before, read, ends⟩ := Reads.readNumber numbered
  refine .trans (.word rfl rfl opens) (.trans (.expect rfl rfl key) ?_)
  refine .trans (.word rfl rfl comma) (.trans (.expect rfl rfl value) ?_)
  refine .trans (.word rfl rfl closes) (.trans (.expect rfl rfl named) ?_)
  exact .trans read (.expectSemicolon ends)

/-- A group is read up to its body, one level further in. -/
theorem Reads.readGroup {isRepeated : Bool}
    (h : readGroup scope isRepeated tokens = .ok (item, rest))
    : Reads ⟨false, depth + 1, tokens⟩ ⟨true, item.nesting depth, rest⟩ := by
  simp only [Proto.readGroup, bind_eq_ok, pure_eq_ok, Prod.mk.injEq] at h
  obtain ⟨⟨_, _⟩, named, ⟨_, _⟩, numbered, rfl, rfl⟩ := h
  obtain ⟨before, read, opens⟩ := Reads.readNumber numbered
  exact .trans (.expect rfl rfl named) (.trans read (.expectOpening opens))

/-- A label is a keyword, and a field without one begins where its type does. -/
theorem Reads.readLabel (depth : Nat) (tokens : Tokens)
    : ∃ front',
        (front' = true → (Proto.readLabel tokens).2 = tokens)
        ∧ Reads ⟨true, depth, tokens⟩ ⟨front', depth, (Proto.readLabel tokens).2⟩ := by
  cases tokens with
  | nil => exact ⟨true, fun _ => rfl, .refl _⟩
  | cons token others =>
      rw [Proto.readLabel]
      split
      · rename_i word
        exact ⟨false, (absurd · Bool.false_ne_true), .keyword word rfl rfl⟩
      split
      · rename_i word
        rcases word with word | word
        · exact ⟨false, (absurd · Bool.false_ne_true), .keyword word rfl rfl⟩
        · exact ⟨false, (absurd · Bool.false_ne_true), .keyword word rfl rfl⟩
      · exact ⟨true, fun _ => rfl, .refl _⟩

/-- A field is read on the level of its message; if it is a group, it leads one level further in. -/
theorem Reads.readField (free : tokens.head?.all fun token => !isPassedOver token.text)
    (h : readField scope tokens = .ok (item, rest))
    : Reads ⟨true, depth + 1, tokens⟩ ⟨true, item.nesting depth, rest⟩ := by
  obtain ⟨front', whole, labelled⟩ := Reads.readLabel (depth + 1) tokens
  have free' {token : Token} {others : Tokens}
      (same : (Proto.readLabel tokens).2 = token :: others)
      : (front' && isPassedOver token.text) = false := by
    cases front' with
    | false => rfl
    | true =>
        rw [whole rfl] at same
        simpa [same] using free
  unfold Proto.readField at h
  dsimp only at h
  refine labelled.trans ?_
  split at h
  · rename_i group
    cases left : (Proto.readLabel tokens).2 with
    | nil => simp [left, startsWith] at group
    | cons token others =>
        rw [left] at h group
        have word : token.text = "group" := by simpa [startsWith] using group
        have keyword : Proto.expect (.word "group") (token :: others) = .ok (token, others) := by
          simp [Proto.expect, Want.accepts, word]
        exact .trans (.expect rfl (free' left) keyword) (.readGroup h)
  · simp only [bind_eq_ok, pure_eq_ok, Prod.mk.injEq] at h
    obtain ⟨⟨_, _⟩, typed, ⟨_, _⟩, named, ⟨_, _⟩, numbered, rfl, rfl⟩ := h
    obtain ⟨before, read, ends⟩ := Reads.readNumber numbered
    refine .trans (.expect rfl (free' (expect_eq_ok typed).1) typed) ?_
    exact .trans (.expect rfl rfl named) (.trans read (.expectSemicolon ends))

/-- An item of a message leads to the level that its sort says. -/
theorem Reads.readMessageItem (h : readMessageItem scope tokens = .ok (item, rest))
    : Reads ⟨true, depth + 1, tokens⟩ ⟨true, item.nesting depth, rest⟩ := by
  cases tokens with
  | nil => cases h
  | cons token others =>
      rw [Proto.readMessageItem] at h
      split at h
      · rename_i text
        cases h
        exact .closing text
      split at h
      · cases h
      split at h
      · rename_i text
        cases h
        exact .semicolon text
      split at h
      · rename_i word
        simp only [readMessageName, bind_eq_ok, pure_eq_ok, Prod.mk.injEq] at h
        obtain ⟨⟨_, _⟩, named, _, opens, rfl, rfl⟩ := h
        refine .trans (.keyword word rfl rfl) ?_
        exact .trans (.expect rfl rfl named) (.expectOpening opens)
      split at h
      · rename_i word
        obtain ⟨_, read, same⟩ := map_eq_ok.mp h
        cases same
        exact .trans (.keyword word rfl rfl) (.readEnum read)
      split at h
      · rename_i word
        obtain ⟨_, passed, same⟩ := map_eq_ok.mp h
        cases same
        have passes : isPassedOver token.text := by simpa [isPassedOver, or_assoc] using word
        exact .statement passes passed
      split at h
      · cases h
      split at h
      · rename_i word
        exact .trans (.keyword word rfl rfl) (.readMapField h)
      · rename_i word _ _
        exact .readField (by simpa [isPassedOver, not_or, and_assoc] using word) h

/-- A body is read to the brace that closes it. By induction on how many tokens there are: the body
of a nested message is read first, and then what comes after it. -/
theorem Reads.readBody {body : MessageBody} (h : readBody scope tokens = .ok (body, rest))
    : Reads ⟨true, depth + 1, tokens⟩ ⟨true, depth, rest⟩ := by
  induction left : tokens.length using Nat.strongRecOn
    generalizing scope tokens rest body depth with
  | ind count ih =>
      rw [readBody_eq, bind_eq_ok] at h
      obtain ⟨⟨item, after⟩, read, next⟩ := h
      have shorter := readMessageItem_length read
      have step : Reads ⟨true, depth + 1, tokens⟩ ⟨true, item.nesting depth, after⟩ :=
        .readMessageItem read
      cases item with
      | close =>
          cases next
          exact step
      | skipped => exact step.trans (ih _ (by omega) next rfl)
      | message name field =>
          obtain ⟨⟨inner, between⟩, nested, next⟩ := bind_eq_ok.mp next
          obtain ⟨⟨_, _⟩, outer, same⟩ := map_eq_ok.mp next
          have shorter' := readBody_length nested
          cases same
          exact step.trans (.trans (ih _ (by omega) nested rfl) (ih _ (by omega) outer rfl))
      | _ =>
          obtain ⟨⟨_, _⟩, outer, same⟩ := map_eq_ok.mp next
          cases same
          exact step.trans (ih _ (by omega) outer rfl)

-----------------------------------------------------------------------------------------
-- Files
-----------------------------------------------------------------------------------------

/-- A token that neither ends nor begins anything does not matter to where a statement ends. -/
theorem skipStatement_expect {want : Want} (plain : want.isPlain)
    (h : expect want tokens = .ok (token, rest))
    : skipStatement 0 tokens = skipStatement 0 rest := by
  obtain ⟨text, -, semicolon, opens, closes⟩ := expect_ne plain h
  obtain ⟨rfl, -⟩ := expect_eq_ok h
  rw [skipStatement, if_neg text, if_neg opens, if_neg fun stray => closes stray.1,
    if_neg fun ends => semicolon ends.1]

/-- An option of a file could be passed over as well, also if it is not. -/
theorem skipStatement_of_readOption {declaration : Declaration}
    (h : readOption tokens = .ok (declaration, rest))
    : skipStatement 0 tokens = .ok rest := by
  cases tokens with
  | nil => cases h
  | cons token others =>
      rw [readOption] at h
      split at h
      · rename_i word
        simp only [bind_eq_ok, pure_eq_ok, Prod.mk.injEq] at h
        obtain ⟨afterEquals, equals, ⟨_, _, afterString⟩, string, _, ends, -, rfl⟩ := h
        have name : expect (.word "go_package") (token :: others) = .ok (token, others) := by
          simp [expect, Want.accepts, word]
        obtain ⟨sign, rfl, text⟩ := expectWord_eq_ok equals
        have assign : expect (.word "=") (sign :: afterEquals) = .ok (sign, afterEquals) := by
          simp [expect, Want.accepts, text]
        obtain ⟨mark, rfl, text⟩ := expectWord_eq_ok ends
        obtain ⟨_, taken⟩ := expect_of_expectString string
        rw [skipStatement_expect rfl name, skipStatement_expect rfl assign,
          skipStatement_expect rfl taken]
        simp [skipStatement, text]
      · obtain ⟨_, passed, same⟩ := map_eq_ok.mp h
        cases same
        exact passed

/-- A declaration of a file leads back to the level it began on, by the word it begins with. -/
theorem Reads.readDeclaration {isFirst : Bool} {declaration : Declaration} {left : Tokens}
    (h : readDeclaration isFirst token rest = .ok (declaration, left))
    : Reads ⟨true, depth, token :: rest⟩ ⟨true, depth, left⟩ := by
  unfold Proto.readDeclaration at h
  split at h
  · rename_i text
    cases h
    exact .semicolon text
  split at h
  · rename_i word
    simp only [readPackage, bind_eq_ok] at h
    obtain ⟨⟨_, _⟩, named, h⟩ := h
    split at h
    · simp only [bind_eq_ok, pure_eq_ok, Prod.mk.injEq] at h
      obtain ⟨_, ends, -, rfl⟩ := h
      refine .trans (.keyword word rfl rfl) ?_
      exact .trans (.expect rfl rfl named) (.expectSemicolon ends)
    · cases h
  split at h
  · rename_i word
    have passes : isPassedOver token.text := by simp [isPassedOver, word]
    exact .statement passes (skipStatement_of_readOption h)
  split at h
  · cases h
  split at h
  · rename_i word
    simp only [readMessage_eq, bind_eq_ok, pure_eq_ok, Prod.mk.injEq] at h
    obtain ⟨⟨_, _⟩, named, _, opens, ⟨_, _⟩, body, -, rfl⟩ := h
    refine .trans (.keyword word rfl rfl) (.trans (.expect rfl rfl named) ?_)
    exact .trans (.expectOpening opens) (.readBody body)
  split at h
  · rename_i word
    obtain ⟨_, read, same⟩ := map_eq_ok.mp h
    cases same
    exact .trans (.keyword word rfl rfl) (.readEnum read)
  split at h
  · rename_i word
    simp only [readService, bind_eq_ok, pure_eq_ok, Prod.mk.injEq] at h
    obtain ⟨⟨_, _⟩, named, _, opens, ⟨_, _⟩, methods, -, rfl⟩ := h
    refine .trans (.keyword word rfl rfl) (.trans (.expect rfl rfl named) ?_)
    exact .trans (.expectOpening opens) (.all .readMethod methods)
  split at h
  · cases h
  · cases h

/-- Declarations are read to the empty token or to the end, where no segment is left. -/
theorem Reads.readDeclarations {file result : File} (depth : Nat)
    (h : readDeclarations file tokens = .ok (result, rest))
    : ∃ last, segments true last = [] ∧ Reads ⟨true, depth, tokens⟩ ⟨true, depth, last⟩ := by
  induction left : tokens.length using Nat.strongRecOn generalizing file tokens with
  | ind count ih =>
      cases tokens with
      | nil => exact ⟨[], by simp [segments], .refl _⟩
      | cons token others =>
          rw [readDeclarations_eq] at h
          split at h
          · rename_i text
            exact ⟨token :: others, by simp [segments, text], .refl _⟩
          · obtain ⟨⟨declaration, after⟩, read, next⟩ := bind_eq_ok.mp h
            have shorter := readDeclaration_length read
            have fewer : after.length < count := by
              rw [← left, List.length_cons]
              omega
            obtain ⟨last, done, others⟩ := ih _ fewer next rfl
            exact ⟨last, done, .trans (.readDeclaration read) others⟩

/-- The header of a file leads back to the level it began on. -/
theorem Reads.readDialect {dialect : Dialect} (h : readDialect tokens = .ok (dialect, rest))
    : Reads ⟨true, depth, tokens⟩ ⟨true, depth, rest⟩ := by
  cases tokens with
  | nil =>
      cases h
      exact .refl _
  | cons token others =>
      rw [Proto.readDialect] at h
      split at h
      · rename_i word
        simp only [bind_eq_ok] at h
        obtain ⟨_, equals, ⟨_, _, _⟩, string, h⟩ := h
        obtain ⟨_, taken⟩ := expect_of_expectString string
        split at h
        · cases h
        · simp only [bind_eq_ok, pure_eq_ok, Prod.mk.injEq] at h
          obtain ⟨_, ends, -, rfl⟩ := h
          refine .trans (.keyword word rfl rfl) (.trans (.word rfl rfl equals) ?_)
          exact .trans (.expect rfl rfl taken) (.expectSemicolon ends)
      · cases h
        exact .refl _

/-- In a file that is read, the tokens that count by themselves are balanced, and what is passed
over as a statement is settled. -/
theorem settled_of_parse {file : File} (h : parse tokens = .ok file)
    : Balanced (kept (segments true tokens))
      ∧ ∀ run, .statement run ∈ segments true tokens → Settled 0 run := by
  obtain ⟨⟨_, rest⟩, read, rfl⟩ := map_eq_ok.mp h
  simp only [readFile, bind_eq_ok] at read
  obtain ⟨⟨dialect, _⟩, first, declarations⟩ := read
  obtain ⟨last, done, others⟩ := Reads.readDeclarations 0 declarations
  obtain ⟨taken, same, level, settled⟩ := Reads.trans (.readDialect first) others
  rw [done, List.append_nil] at same
  rw [same]
  exact ⟨balanced_iff.mpr level, settled⟩

/-- In a file that is read, the braces outside of options and of statements that are passed over are
balanced. All its braces are balanced, if those of each list of options are, in just the case that
no statement closes a brace that it does not open. -/
theorem parse_balanced_iff {file : File} (h : parse tokens = .ok file)
    : Balanced (kept (segments true tokens))
      ∧ ((∀ run, .options run ∈ segments true tokens → Balanced run)
        → (Balanced (tokens.takeWhile (·.text ≠ ""))
          ↔ ∀ run, .statement run ∈ segments true tokens → Balanced run)) := by
  obtain ⟨level, settled⟩ := settled_of_parse h
  refine ⟨level, fun options => ?_⟩
  rw [← segments_tokens true tokens]
  exact balanced_flatMap_iff level settled options

def spillTokens : Tokens :=
  ["message", "Spill", "\x7b", "reserved", "1", "\x7d", ";", "\x7d", ""].map (⟨·, .start⟩)

/-- A statement without its semicolon takes the brace that closes the message. -/
theorem spill_unbalanced
    : (∃ file, parse spillTokens = .ok file)
      ∧ ¬Balanced (spillTokens.takeWhile (·.text ≠ "")) := by
  let file : File := { File.empty with definitions := [⟨"Spill", .start, .message, [], false⟩] }
  have parsed : parse spillTokens = .ok file := toOption_eq_some.mp (by decide +kernel)
  let taken : Tokens := ["1", "\x7d", ";"].map (⟨·, .start⟩)
  have parts
      : segments true spillTokens
        = ["message", "Spill", "\x7b", "reserved"].map (fun text => .token ⟨text, .start⟩)
          ++ [.statement taken, .token ⟨"\x7d", .start⟩] := by
    simp [spillTokens, segments, isPassedOver, isBoundary, runTo, taken]
  refine ⟨⟨file, parsed⟩, fun balanced => ?_⟩
  have options : ∀ run, .options run ∈ segments true spillTokens → Balanced run := by
    simp [parts]
  have statements := ((parse_balanced_iff parsed).2 options).mp balanced
  have surplus : ¬Balanced taken := by decide
  exact surplus (statements taken (by simp [parts]))

end GrpcMock.Proto
