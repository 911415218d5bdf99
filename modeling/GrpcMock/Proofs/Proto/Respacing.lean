import GrpcMock.Outcome
import GrpcMock.Proofs.Proto.Lexeme
import GrpcMock.Proto.Token

/-!
Tokens written anew with single spaces between them. Each is found again where it was put, whatever
stood between the tokens before.
-/

namespace GrpcMock.Proto

open GrpcMock.Text

/-- A word that is a token wherever it stands apart. -/
def IsToken (word : List Char) : Prop :=
  ∃ kind : LexemeKind,
    kind.isSkipped = false
    ∧ ∀ before after,
        before.any isWordChar = false
        → Ends after
        → lexeme? before (word ++ after) = some (kind, word.length)

/-- What is found as a token once is a token wherever it stands apart. -/
theorem IsToken.of_lexeme? {before : Option Char} {text : List Char} {kind : LexemeKind} {n : Nat}
    (token : kind.isSkipped = false) (h : lexeme? before text = some (kind, n))
    : IsToken (text.take n) := by
  refine ⟨kind, token, fun other after apart ends => ?_⟩
  obtain ⟨fits, again⟩ := lexeme?_keeps token h apart
  rw [again after ends, List.length_take_of_le fits]

/-- A token does not begin with white space. -/
theorem IsToken.front {word : List Char} (h : IsToken word)
    : ∃ c rest, word = c :: rest ∧ isBlank c = false := by
  obtain ⟨kind, token, again⟩ := h
  have alone := again none [] rfl fun _ first => nomatch first
  obtain ⟨c, rest, _, same, -, known⟩ :=
    LexemeKind.length?_front token (length?_of_lexeme? alone)
  exact ⟨c, rest, (List.append_nil word).symm.trans same, not_isBlank_of_kindOf? known⟩

-----------------------------------------------------------------------------------------
-- One lexeme after the other
-----------------------------------------------------------------------------------------

/-- The lexeme at the front is a token or passed over, and the tokens behind it follow. -/
theorem tokensFrom_lexeme {before : Option Char} {part after : List Char} {kind : LexemeKind}
    (full : part ≠ []) (h : lexeme? before (part ++ after) = some (kind, part.length))
    (position : Position)
    : tokensFrom before position (part ++ after)
      = (tokensFrom part.getLast? (position.advance part) after).map fun tokens =>
          if kind.isSkipped then tokens else ⟨String.ofList part, position⟩ :: tokens := by
  cases part with
  | nil => exact absurd rfl full
  | cons c rest =>
      rw [List.cons_append] at h ⊢
      have cut : ((c :: rest) ++ after).take (c :: rest).length = c :: rest := List.take_left
      have left : (rest ++ after).drop ((c :: rest).length - 1) = after := List.drop_left
      rw [List.cons_append] at cut
      rw [tokensFrom, h]
      simp only [cut, left]
      cases tokensFrom (c :: rest).getLast? (position.advance (c :: rest)) after <;> rfl

/-- A token that nothing runs into is found, and then those behind it. -/
theorem tokensFrom_token {before : Option Char} {word after : List Char} (h : IsToken word)
    (apart : before.any isWordChar = false) (ends : Ends after) (position : Position)
    : tokensFrom before position (word ++ after)
      = (tokensFrom word.getLast? (position.advance word) after).map
          (⟨String.ofList word, position⟩ :: ·) := by
  obtain ⟨c, rest, same, -⟩ := h.front
  obtain ⟨kind, token, again⟩ := h
  have full : word ≠ [] := by simp [same]
  rw [tokensFrom_lexeme full (again before after apart ends) position]
  simp [token]

/-- A blank before anything else is passed over. -/
theorem tokensFrom_space {before : Option Char} {rest : List Char}
    (stops : ∀ c ∈ rest.head?, isBlank c = false) (position : Position)
    : tokensFrom before position (' ' :: rest)
      = tokensFrom (some ' ') (position.advance [' ']) rest := by
  have found : lexeme? before ([' '] ++ rest) = some (.blank, [' '].length) :=
    lexeme?_blank (List.cons_ne_nil ' ' []) (List.forall_mem_singleton.mpr (by decide)) stops before
  refine (tokensFrom_lexeme (List.cons_ne_nil ' ' []) found position).trans ?_
  change Except.map _ (tokensFrom (some ' ') (position.advance [' ']) rest) = _
  cases tokensFrom (some ' ') (position.advance [' ']) rest <;> rfl

/-- The tokens of a text are words that are tokens anywhere, and the empty one at the end. -/
theorem tokensFrom_words {before : Option Char} {position : Position} {text : List Char}
    {tokens : List Token} (h : tokensFrom before position text = .ok tokens)
    : ∃ words : List (List Char),
        (∀ word ∈ words, IsToken word)
        ∧ tokens.map (·.text) = words.map String.ofList ++ [""] := by
  fun_induction tokensFrom before position text generalizing tokens with
  | case1 =>
      cases h
      exact ⟨[], by simp, rfl⟩
  | case2 => cases h
  | case3 => cases h
  | case4 =>
      rename_i kind n found part _ left read ih
      cases h
      obtain ⟨words, each, texts⟩ := ih read
      cases token : kind.isSkipped with
      | true => exact ⟨words, each, texts⟩
      | false =>
          refine ⟨part :: words, List.forall_mem_cons.mpr ⟨.of_lexeme? token found, each⟩, ?_⟩
          exact congrArg (String.ofList part :: ·) texts

-----------------------------------------------------------------------------------------
-- Single spaces
-----------------------------------------------------------------------------------------

/-- Words with a space before each of them. -/
def spaced (words : List (List Char)) : List Char :=
  words.flatMap (' ' :: ·)

/-- Words in two lists are spaced in each. -/
theorem spaced_append (left right : List (List Char))
    : spaced (left ++ right) = spaced left ++ spaced right :=
  List.flatMap_append

/-- Words with blanks between them are the first one and the others, each behind a blank. -/
theorem intercalate_spaced (word : List Char) (words : List (List Char))
    : [' '].intercalate (word :: words) = word ++ spaced words := by
  induction words generalizing word with
  | nil => simp [spaced]
  | cons next rest ih =>
      rw [List.intercalate_cons_cons, ih, List.append_assoc]
      rfl

/-- What comes after a word begins with a space, if there is anything. -/
theorem ends_spaced (words : List (List Char)) {final : List Char}
    (ends : final = [] ∨ final = [' '])
    : Ends (spaced words ++ final) := by
  have space (after : List Char) (h : after = [] ∨ ∃ rest, after = ' ' :: rest) : Ends after := by
    rintro c first
    rcases h with rfl | ⟨rest, rfl⟩
    · cases first
    · cases first
      decide
  apply space
  cases words with
  | nil => rcases ends with rfl | rfl <;> simp [spaced]
  | cons word rest => exact .inr ⟨_, rfl⟩

/-- Words with spaces before them become their tokens, by induction on the list of them. A further
space at the end does not matter. -/
theorem tokensFrom_spaced {words : List (List Char)} {final : List Char}
    (each : ∀ word ∈ words, IsToken word) (ends : final = [] ∨ final = [' '])
    (before : Option Char) (position : Position)
    : ∃ tokens,
        tokensFrom before position (spaced words ++ final) = .ok tokens
        ∧ tokens.map (·.text) = words.map String.ofList ++ [""] := by
  induction words generalizing before position with
  | nil =>
      rcases ends with rfl | rfl
      · exact ⟨[⟨"", position⟩], by simp [spaced, tokensFrom], rfl⟩
      · refine ⟨[⟨"", position.advance [' ']⟩], ?_, rfl⟩
        rw [spaced, List.flatMap_nil, List.nil_append, tokensFrom_space (by simp), tokensFrom]
  | cons word rest ih =>
      obtain ⟨token, others⟩ := List.forall_mem_cons.mp each
      let place := position.advance [' ']
      obtain ⟨tokens, read, texts⟩ := ih others word.getLast? (place.advance word)
      obtain ⟨c, more, front, notBlank⟩ := token.front
      have text : spaced (word :: rest) ++ final = ' ' :: (word ++ (spaced rest ++ final)) := by
        rw [spaced, List.flatMap_cons, List.append_assoc, List.cons_append]
        rfl
      have stops : ∀ c ∈ (word ++ (spaced rest ++ final)).head?, isBlank c = false := by
        rintro _ first
        rw [front] at first
        cases first
        exact notBlank
      have apart : Ends (spaced rest ++ final) := ends_spaced rest ends
      refine ⟨⟨String.ofList word, place⟩ :: tokens, ?_, congrArg (String.ofList word :: ·) texts⟩
      rw [text, tokensFrom_space stops, tokensFrom_token token (by decide) apart, read]
      rfl

/-- Texts are known by their characters. -/
theorem map_toList_ofList (words : List (List Char))
    : (words.map String.ofList).map String.toList = words := by
  rw [List.map_map]
  exact List.map_id'' (fun _ => String.toList_ofList) words

/-- Words that are joined by single spaces are the tokens of the text, with the empty word at the
end or without it. -/
theorem tokenize_intercalate {words : List (List Char)} {last : List String}
    (each : ∀ word ∈ words, IsToken word) (ends : last = [] ∨ last = [""])
    : ∃ tokens,
        tokenize (" ".intercalate (words.map String.ofList ++ last)) = .ok tokens
        ∧ tokens.map (·.text) = words.map String.ofList ++ [""] := by
  have text
      : (" ".intercalate (words.map String.ofList ++ last)).toList
        = [' '].intercalate (words ++ last.map String.toList) := by
    rw [String.toList_intercalate, List.map_append, map_toList_ofList]
    rfl
  cases words with
  | nil =>
      refine ⟨[⟨"", .start⟩], ?_, rfl⟩
      have empty : [' '].intercalate ([] ++ last.map String.toList) = [] := by
        rcases ends with rfl | rfl <;> rfl
      rw [tokenize, text, empty, tokensFrom]
  | cons word rest =>
      obtain ⟨token, others⟩ := List.forall_mem_cons.mp each
      have final
          : spaced (last.map String.toList) = [] ∨ spaced (last.map String.toList) = [' '] := by
        rcases ends with rfl | rfl
        · exact .inl rfl
        · exact .inr rfl
      obtain ⟨tokens, read, texts⟩ :=
        tokensFrom_spaced others final word.getLast? (Position.start.advance word)
      refine ⟨⟨String.ofList word, .start⟩ :: tokens, ?_, congrArg (String.ofList word :: ·) texts⟩
      rw [tokenize, text, List.cons_append, intercalate_spaced, spaced_append,
        tokensFrom_token token rfl (ends_spaced rest final), read]
      rfl

/-- The tokens of a text are the tokens of another, in which they stand with single spaces between
them. The empty token at the end may be left out. -/
theorem tokenize_respaced {text : String} {tokens : List Token} (h : tokenize text = .ok tokens)
    : ∀ joined ∈ [tokens.map (·.text), (tokens.map (·.text)).dropLast],
        ∃ others,
          tokenize (" ".intercalate joined) = .ok others
          ∧ others.map (·.text) = tokens.map (·.text) := by
  obtain ⟨words, each, texts⟩ := tokensFrom_words h
  rw [texts, List.dropLast_concat]
  intro joined member
  rcases List.mem_pair.mp member with rfl | rfl
  · exact tokenize_intercalate each (.inr rfl)
  · have alone := tokenize_intercalate each (.inl rfl)
    rwa [List.append_nil] at alone

end GrpcMock.Proto
