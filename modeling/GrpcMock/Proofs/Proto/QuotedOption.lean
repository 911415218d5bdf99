import GrpcMock.Proofs.Go.StringLiteral
import GrpcMock.Proofs.Proto.Grammar
import GrpcMock.Proofs.Proto.Respacing
import GrpcMock.Proofs.Text.Lines

/-!
Quoted texts in a schema file. Each is one token there, however its characters are escaped, and it
gives an option the text as its value.
-/

namespace GrpcMock.Proto

open GrpcMock.Text
open GrpcMock.Text.Quoted (IsPlain encode escape escape_eq ne_newline_of_visible)

-----------------------------------------------------------------------------------------
-- One token
-----------------------------------------------------------------------------------------

/-- A string goes on behind plain characters. -/
theorem stringTail?_plain {run : List Char} (plain : ∀ c ∈ run, IsPlain c) (rest : List Char)
    : stringTail? (run ++ rest) = (stringTail? rest).map (· + run.length) := by
  induction run with
  | nil => simp
  | cons c others ih =>
      obtain ⟨⟨notQuote, notBackslash, visible⟩, more⟩ := List.forall_mem_cons.mp plain
      have sameLine := ne_newline_of_visible visible
      rw [List.cons_append, stringTail?, if_neg (not_or.mpr ⟨sameLine, notBackslash⟩), ih more,
        Option.map_map]
      · rfl
      · exact notQuote
      · exact fun _ _ same _ => notBackslash same

/-- It goes on behind what is written for a character. -/
theorem stringTail?_escape (c : Char) (rest : List Char)
    : stringTail? (escape c ++ rest) = (stringTail? rest).map (· + (escape c).length) := by
  obtain ⟨run, plain, same | ⟨letter, visible, same⟩⟩ := escape_eq c
  · rw [same, stringTail?_plain plain]
  · have sameLine := ne_newline_of_visible visible
    rw [same, List.cons_append, List.cons_append, stringTail?, if_neg sameLine,
      stringTail?_plain plain, Option.map_map]
    rfl

/-- A string ends with its closing quote, whatever is quoted, by induction on that. -/
theorem string?_encode (text rest : List Char)
    : string? (encode text ++ rest) = some (encode text).length := by
  have body
      : stringTail? (text.flatMap escape ++ '"' :: rest)
        = some ((text.flatMap escape).length + 1) := by
    induction text with
    | nil => rfl
    | cons c others ih =>
        rw [List.flatMap_cons, List.append_assoc, stringTail?_escape, ih, Option.map_some,
          List.length_append]
        congr 1
        omega
  rw [encode, List.cons_append, List.append_assoc, List.singleton_append, string?, body]
  simp

/-- A quoted text is one token. -/
theorem isToken_quote (text : String) : IsToken (quote text).toList := by
  refine ⟨.string, rfl, fun before after _ _ => ?_⟩
  rw [quote, String.toList_ofList]
  exact lexeme?_of_length? rfl (string?_encode text.toList after)

/-- It ends with a quote. -/
theorem getLast?_quote (text : String) : (quote text).toList.getLast? = some '"' := by
  rw [quote, String.toList_ofList, encode, ← List.cons_append, List.getLast?_concat]

/-- It is a string that ends on its line. -/
theorem isString_quote (text : String) : isString (quote text) := by
  have sameLine : (quote text).toList.all (· != '\n') := by
    refine List.all_eq_true.mpr fun c inside => bne_iff_ne.mpr ?_
    rintro rfl
    exact newline_not_mem_quote text inside
  rw [isString, getLast?_quote, sameLine]
  simp [quote, encode]

-----------------------------------------------------------------------------------------
-- One option
-----------------------------------------------------------------------------------------

/-- An identifier is one token. -/
theorem isToken_of_isIdentifier {text : String} (h : isIdentifier text) : IsToken text.toList := by
  rw [isIdentifier, Bool.and_eq_true] at h
  obtain ⟨start, all⟩ := h
  refine ⟨.name, rfl, fun before after apart ends => lexeme?_of_length? rfl ?_⟩
  have found := dottedName?_run start (List.all_eq_true.mp all) ends.isNameChar
  rw [dottedTail?_of_ends ends] at found
  change name? before (text.toList ++ after) = some text.toList.length
  generalize text.toList = word at start found ⊢
  cases word with
  | nil => cases start
  | cons c others =>
      have noDot : c ≠ '.' := by
        rintro rfl
        have dot : isNameStart '.' := start
        revert dot
        decide
      rw [List.cons_append] at found ⊢
      rw [name?, apart, if_neg Bool.false_ne_true, found]
      exact fun _ same => noDot (List.cons.inj same).1

/-- So is a mark. -/
theorem isToken_of_isPunctuation {c : Char} (h : isPunctuation c) : IsToken [c] :=
  ⟨.punctuation, rfl, fun _ _ _ _ => lexeme?_of_length? rfl (if_pos h)⟩

/-- The texts of the tokens of a text that comes after the character `before`. -/
def Lexes (before : Option Char) (text : List Char) (words : List String) : Prop :=
  ∀ position,
    ∃ tokens, tokensFrom before position text = .ok tokens ∧ tokens.map (·.text) = words

namespace Lexes

variable {before : Option Char} {word rest : List Char} {words : List String}

/-- Nothing but the end is found in an empty text. -/
theorem nil : Lexes before [] [""] := by
  intro position
  refine ⟨[⟨"", position⟩], ?_, rfl⟩
  rw [tokensFrom]

/-- A token that nothing runs into comes before those behind it. -/
theorem token (h : IsToken word) (apart : before.any isWordChar = false) (ends : Ends rest)
    (more : Lexes word.getLast? rest words)
    : Lexes before (word ++ rest) (String.ofList word :: words) := by
  intro position
  obtain ⟨tokens, read, texts⟩ := more (position.advance word)
  refine ⟨⟨String.ofList word, position⟩ :: tokens, ?_, congrArg (String.ofList word :: ·) texts⟩
  rw [tokensFrom_token h apart ends, read]
  rfl

/-- A token with a space and another token behind it. -/
theorem spaced {next : List Char} (h : IsToken word) (apart : before.any isWordChar = false)
    (follows : IsToken next) (more : Lexes (some ' ') (next ++ rest) words)
    : Lexes before (word ++ ' ' :: (next ++ rest)) (String.ofList word :: words) := by
  have ends : Ends (' ' :: (next ++ rest)) := by
    rintro c first
    cases first
    decide
  obtain ⟨c, others, rfl, notBlank⟩ := follows.front
  have stops : ∀ first ∈ (c :: others ++ rest).head?, isBlank first = false := by
    rintro _ first
    cases first
    exact notBlank
  refine token h apart ends fun position => ?_
  rw [tokensFrom_space stops]
  exact more _

end Lexes

/-- The tokens of an option that is given a quoted text. -/
theorem tokenize_goPackage (text : String)
    : ∃ tokens,
        tokenize ("option go_package = " ++ quote text ++ ";") = .ok tokens
        ∧ tokens.map (·.text) = ["option", "go_package", "=", quote text, ";", ""] := by
  have option : IsToken "option".toList := isToken_of_isIdentifier (by decide)
  have goPackage : IsToken "go_package".toList := isToken_of_isIdentifier (by decide)
  have equals : IsToken ['='] := isToken_of_isPunctuation (by decide)
  have semicolon : IsToken [';'] := isToken_of_isPunctuation (by decide)
  have quoted := isToken_quote text
  have closing : (quote text).toList.getLast?.any isWordChar = false := by
    rw [getLast?_quote]
    decide
  have ends : Ends [';'] := by
    rintro c first
    cases first
    decide
  have last : Lexes (quote text).toList.getLast? [';'] [";", ""] :=
    .token semicolon closing (fun _ first => nomatch first) .nil
  have whole : Lexes none _ _ :=
    .spaced option rfl goPackage
      (.spaced goPackage rfl equals (.spaced equals rfl quoted (.token quoted rfl ends last)))
  obtain ⟨tokens, read, texts⟩ := whole .start
  have words
      : ("option go_package = " ++ quote text ++ ";").toList
        = "option".toList ++ ' ' :: ("go_package".toList
            ++ ' ' :: (['='] ++ ' ' :: ((quote text).toList ++ [';']))) := by
    simp
  refine ⟨tokens, ?_, ?_⟩
  · rw [tokenize, words, read]
  · simp [texts]

/-- Tokens with the texts of some words spell them. -/
theorem spells_words {words : List String} {tokens : Tokens} (h : tokens.map (·.text) = words)
    : Spells (words.map .word) tokens [] := by
  apply Spells.of_forall₂
  rw [← h, List.map_map, List.forall₂_map_left_iff, List.forall₂_same]
  exact fun token _ => rfl

/-- A quoted text holds no control characters, and no bare quotes but its own. By the rules of Go
and by those of JSON it stands for the text. In a schema file it is a string, the only one of an
option that has it as its value, and the value is read as the text. -/
theorem quote_readsBack (text : String)
    : (∀ c ∈ (quote text).toList, 0x20 ≤ c.toNat)
      ∧ bareQuotes 0 (quote text).toList = [0, (quote text).toList.length - 1]
      ∧ Go.stringBytes? (quote text).toList = some (utf8Bytes text.toList)
      ∧ unquote? (quote text) = some text
      ∧ ∃ tokens,
          tokenize ("option go_package = " ++ quote text ++ ";") = .ok tokens
          ∧ (tokens.map (·.text)).filter isString = [quote text]
          ∧ parse tokens = .ok { File.empty with goPackage := some text } := by
  obtain ⟨tokens, read, texts⟩ := tokenize_goPackage text
  have isText : isString (quote text) := isString_quote text
  let part : Source.Part := .goPackage ⟨quote text, text, isText, unquote?_quote text⟩
  have spelled : Spells ([part].flatMap Source.Part.pieces ++ [.word ""]) tokens [] :=
    spells_words texts
  refine
    ⟨fun c => visible_of_mem_quote, bareQuotes_quote text, Go.stringBytes?_quote text,
      unquote?_quote text, tokens, read, ?_, ?_⟩
  · rw [texts]
    have others : ∀ word ∈ ["option", "go_package", "=", ";", ""], isString word = false := by
      decide
    simp only [List.forall_mem_cons] at others
    simp [isText, others]
  · have one : (File.empty.package.toList ++ [part].filterMap Source.Part.package?).length ≤ 1 :=
      Nat.zero_le 1
    rw [parse, readFile, bind_of_eq_ok (Source.readDialect_parts spelled)]
    exact map_eq_ok.mpr ⟨_, Source.readDeclarations_parts one spelled, rfl⟩

end GrpcMock.Proto
