import GrpcMock.Text.Quoted
import Mathlib.Data.List.Basic

/-!
Quoted strings are read back piece by piece, and what follows one is left as it is. So a text that
begins with a quoted string begins with no other one. Between its quotes there is neither a bare
quote nor a control character.
-/

namespace GrpcMock.Text

namespace Quoted

/-- A character is escaped by its number. -/
def isNumbered (c : Char) : Bool :=
  c.toNat < 0x20 && !(c = '\n' || c = '\r' || c = '\t' || c.toNat = 8 || c.toNat = 12)

/-- The piece that a character is read back as. -/
def pieceOf (c : Char) : Piece :=
  if isNumbered c then .unit c.toNat else .char c

/-- Different characters are read back as different pieces. -/
theorem pieceOf_injective : Function.Injective pieceOf := by
  intro left right same
  unfold pieceOf at same
  split at same <;> split at same
  · exact Char.toNat_inj.mp (Piece.unit.inj same)
  · cases same
  · cases same
  · exact Piece.char.inj same

/-- A hexadecimal digit is read back as its value. -/
theorem hexValue?_hexDigit {n : Nat} (small : n < 16) : hexValue? (hexDigit n) = some n := by
  have each : ∀ n < 16, hexValue? (hexDigit n) = some n := by decide
  exact each n small

/-- The number of a control character is read from its two digits. -/
theorem unitValue?_hexDigit {n : Nat} (small : n < 0x20)
    : unitValue? '0' '0' (hexDigit (n / 16)) (hexDigit (n % 16)) = some n := by
  have zero : hexValue? '0' = some 0 := by decide
  have high : hexValue? (hexDigit (n / 16)) = some (n / 16) := hexValue?_hexDigit (by omega)
  have low : hexValue? (hexDigit (n % 16)) = some (n % 16) := hexValue?_hexDigit (by omega)
  simp only [unitValue?, zero, high, low, Option.bind_eq_bind, Option.bind_some, Option.pure_def,
    Option.some.injEq]
  omega

/-- A letter behind a backslash stands for its character. -/
theorem pieces?_letter {letter c : Char} (rest : List Char) (other : letter ≠ 'u')
    (stands : unescape? letter = some c)
    : pieces? ('\\' :: letter :: rest)
      = (pieces? rest).map fun (pieces, after) => (.char c :: pieces, after) := by
  rw [pieces?, stands]
  · cases pieces? rest <;> rfl
  · exact fun _ _ _ _ _ same _ => other same

/-- A plain character stands for itself. -/
theorem pieces?_plain {c : Char} (rest : List Char) (notQuote : c ≠ '"')
    (notBackslash : c ≠ '\\') (visible : ¬c.toNat < 0x20)
    : pieces? (c :: rest)
      = (pieces? rest).map fun (pieces, after) => (.char c :: pieces, after) := by
  rw [pieces?, if_neg (not_or.mpr ⟨visible, notBackslash⟩)]
  · cases pieces? rest <;> rfl
  · exact notQuote
  · exact fun _ _ _ _ _ same _ => notBackslash same
  · exact fun _ _ same _ => notBackslash same

/-- A control character stands by its number. -/
theorem pieces?_control {n : Nat} (rest : List Char) (small : n < 0x20)
    : pieces? ('\\' :: 'u' :: '0' :: '0' :: hexDigit (n / 16) :: hexDigit (n % 16) :: rest)
      = (pieces? rest).map fun (pieces, after) => (.unit n :: pieces, after) := by
  rw [pieces?, unitValue?_hexDigit small]
  cases pieces? rest <;> rfl

/-- The letters that stand for characters after a backslash, each with its character. -/
def letters : List (Char × Char) :=
  [
    ('"', '"'), ('\\', '\\'), ('n', '\n'), ('r', '\r'), ('t', '\t'), ('b', Char.ofNat 8),
    ('f', Char.ofNat 12)
  ]

/-- How a character is written between quotes: as it is, by a letter, or by its number. -/
inductive Escaped (c : Char) : List Char → Prop
  | plain (notQuote : c ≠ '"') (notBackslash : c ≠ '\\') (visible : ¬c.toNat < 0x20)
    : Escaped c [c]
  | letter {letter : Char} (listed : (letter, c) ∈ letters) : Escaped c ['\\', letter]
  | number (control : c.toNat < 0x20) (numbered : isNumbered c)
    : Escaped c ['\\', 'u', '0', '0', hexDigit (c.toNat / 16), hexDigit (c.toNat % 16)]

/-- Every character is written in one of the three ways. -/
theorem escaped (c : Char) : Escaped c (escape c) := by
  have eq_ofNat {n : Nat} (h : c.toNat = n) : c = Char.ofNat n := by rw [← h, Char.ofNat_toNat]
  unfold escape
  split_ifs with quote backslash newline carriage tab backspace feed control
  · exact .letter (by simp [letters, quote])
  · exact .letter (by simp [letters, backslash])
  · exact .letter (by simp [letters, newline])
  · exact .letter (by simp [letters, carriage])
  · exact .letter (by simp [letters, tab])
  · exact .letter (by simp [letters, eq_ofNat backspace])
  · exact .letter (by simp [letters, eq_ofNat feed])
  · exact .number control (by simp [isNumbered, newline, carriage, tab, backspace, feed, control])
  · exact .plain quote backslash control

/-- An escaped character is read as one piece. -/
theorem pieces?_escape (c : Char) (rest : List Char)
    : pieces? (escape c ++ rest)
      = (pieces? rest).map fun (pieces, after) => (pieceOf c :: pieces, after) := by
  have form := escaped c
  generalize escape c = written at form ⊢
  cases form with
  | plain notQuote notBackslash visible =>
      have piece : pieceOf c = .char c := by simp [pieceOf, isNumbered, visible]
      rw [piece]
      exact pieces?_plain rest notQuote notBackslash visible
  | letter listed =>
      have each
          : ∀ pair ∈ letters,
              pair.1 ≠ 'u' ∧ unescape? pair.1 = some pair.2 ∧ pieceOf pair.2 = .char pair.2 := by
        decide
      obtain ⟨other, stands, piece⟩ := each _ listed
      rw [piece]
      exact pieces?_letter rest other stands
  | number control numbered =>
      have piece : pieceOf c = .unit c.toNat := if_pos numbered
      rw [piece]
      exact pieces?_control rest control

/-- A whole text is read back up to its closing quote, by induction on it. -/
theorem pieces?_flatMap_escape (text rest : List Char)
    : pieces? (text.flatMap escape ++ '"' :: rest) = some (text.map pieceOf, rest) := by
  induction text with
  | nil => rfl
  | cons first others ih =>
      rw [List.flatMap_cons, List.append_assoc, pieces?_escape, ih]
      rfl

/-- The number of a control character is no half of a pair, so it stands for itself. -/
theorem join?_unit {n : Nat} (small : n < 0x20) (rest : List Piece)
    : join? (.unit n :: rest) = (join? rest).map (Char.ofNat n :: ·) := by
  have notLeading : isLeading n = false := by simp [isLeading]; omega
  have notTrailing : isTrailing n = false := by simp [isTrailing]; omega
  rcases rest with _ | ⟨_ | _, rest⟩
  · simp [join?, notLeading, notTrailing]
  · simp only [join?, notLeading, notTrailing, Option.map_map]
    rfl
  · simp [join?, notLeading, notTrailing]

/-- The pieces of characters make up the characters again. -/
theorem join?_map_pieceOf (text : List Char) : join? (text.map pieceOf) = some text := by
  induction text with
  | nil => rfl
  | cons c rest ih =>
      rw [List.map_cons, pieceOf]
      split
      · rename_i numbered
        have control : c.toNat < 0x20 := by
          simp only [isNumbered, Bool.and_eq_true, decide_eq_true_eq] at numbered
          exact numbered.1
        rw [join?_unit control, ih, Option.map_some, Char.ofNat_toNat]
      · rw [join?, ih, Option.map_some]

/-- What is written between quotes is read back. -/
theorem decode?_encode (text : List Char) : decode? (encode text) = some text := by
  have read : read? (text.flatMap escape ++ ['"']) = some (text, []) := by
    rw [read?, pieces?_flatMap_escape]
    simp [join?_map_pieceOf]
  rw [encode, decode?, read]

/-- A quoted string at the front of a text is the only one there. -/
theorem encode_append_inj {left right after rest : List Char}
    (same : encode left ++ after = encode right ++ rest)
    : left = right ∧ after = rest := by
  simp only [encode, List.cons_append, List.append_assoc, List.nil_append, List.cons.injEq,
    true_and] at same
  have read := pieces?_flatMap_escape left after
  rw [same, pieces?_flatMap_escape right rest, Option.some.injEq, Prod.mk.injEq] at read
  exact ⟨(List.map_injective_iff.mpr pieceOf_injective read.1).symm, read.2.symm⟩

-----------------------------------------------------------------------------------------
-- What a quoted text is made of
-----------------------------------------------------------------------------------------

/-- A character that stands for itself between quotes. -/
def IsPlain (c : Char) : Prop :=
  c ≠ '"' ∧ c ≠ '\\' ∧ 0x20 ≤ c.toNat

instance (c : Char) : Decidable (IsPlain c) :=
  inferInstanceAs (Decidable (_ ∧ _ ∧ _))

/-- A character that can be seen is no line break. -/
theorem ne_newline_of_visible {c : Char} (visible : 0x20 ≤ c.toNat) : c ≠ '\n' := by
  rintro rfl
  exact absurd visible (by decide)

/-- Hexadecimal digits stand for themselves. -/
theorem isPlain_hexDigit {n : Nat} (small : n < 16) : IsPlain (hexDigit n) := by
  have each : ∀ n < 16, IsPlain (hexDigit n) := by decide
  exact each n small

/-- Only the character behind a backslash may be one that does not stand for itself. -/
theorem escape_eq (c : Char)
    : ∃ run,
        (∀ d ∈ run, IsPlain d)
        ∧ (escape c = run ∨ ∃ letter, 0x20 ≤ letter.toNat ∧ escape c = '\\' :: letter :: run) := by
  have form := escaped c
  generalize escape c = written at form ⊢
  cases form with
  | plain notQuote notBackslash visible =>
      refine ⟨[c], List.forall_mem_singleton.mpr ⟨notQuote, notBackslash, ?_⟩, .inl rfl⟩
      exact Nat.not_lt.mp visible
  | letter listed =>
      have each : ∀ pair ∈ letters, 0x20 ≤ pair.1.toNat := by decide
      exact ⟨[], by simp, .inr ⟨_, each _ listed, rfl⟩⟩
  | number control =>
      refine ⟨_, ?_, .inr ⟨'u', by decide, rfl⟩⟩
      have zero : IsPlain '0' := by decide
      simp only [List.forall_mem_cons]
      exact ⟨zero, zero, isPlain_hexDigit (by omega), isPlain_hexDigit (by omega), by simp⟩

/-- Whatever a character is, only visible ones are written for it. -/
theorem visible_of_mem_escape {c d : Char} (h : d ∈ escape c) : 0x20 ≤ d.toNat := by
  obtain ⟨run, plain, same | ⟨letter, visible, same⟩⟩ := escape_eq c
  · exact (plain d (same ▸ h)).2.2
  · rw [same, List.mem_cons, List.mem_cons] at h
    rcases h with rfl | rfl | inside
    · decide
    · exact visible
    · exact (plain d inside).2.2

end Quoted

/-- A quoted text is read back as the text. -/
theorem unquote?_quote (text : String) : unquote? (quote text) = some text := by
  rw [unquote?, quote, String.toList_ofList, Quoted.decode?_encode, Option.map_some,
    String.ofList_toList]

/-- There are no control characters in a quoted text. -/
theorem visible_of_mem_quote {text : String} {c : Char} (h : c ∈ (quote text).toList)
    : 0x20 ≤ c.toNat := by
  rw [quote, String.toList_ofList, Quoted.encode, List.mem_cons, List.mem_append,
    List.mem_flatMap, List.mem_singleton] at h
  rcases h with rfl | ⟨_, _, inside⟩ | rfl
  · decide
  · exact Quoted.visible_of_mem_escape inside
  · decide

/-- The places of the quotes that no backslash escapes, in a text that begins at a place. -/
def bareQuotes (place : Nat) : List Char → List Nat
  | [] => []
  | '\\' :: _ :: rest => bareQuotes (place + 2) rest
  | '"' :: rest => place :: bareQuotes (place + 1) rest
  | _ :: rest => bareQuotes (place + 1) rest

namespace Quoted

/-- There are no bare quotes among plain characters. -/
theorem bareQuotes_plain {run : List Char} (plain : ∀ c ∈ run, IsPlain c) (place : Nat)
    (rest : List Char)
    : bareQuotes place (run ++ rest) = bareQuotes (place + run.length) rest := by
  induction run generalizing place with
  | nil => rfl
  | cons c others ih =>
      obtain ⟨⟨notQuote, notBackslash, -⟩, more⟩ := List.forall_mem_cons.mp plain
      rw [List.cons_append, bareQuotes, ih more, List.length_cons, Nat.add_assoc, Nat.add_comm 1]
      · exact fun _ _ same _ => notBackslash same
      · exact notQuote

/-- Neither are there in what is written for a character. -/
theorem bareQuotes_escape (c : Char) (place : Nat) (rest : List Char)
    : bareQuotes place (escape c ++ rest) = bareQuotes (place + (escape c).length) rest := by
  obtain ⟨run, plain, same | ⟨letter, -, same⟩⟩ := escape_eq c
  · rw [same, bareQuotes_plain plain]
  · rw [same, List.cons_append, List.cons_append, bareQuotes, bareQuotes_plain plain]
    congr 1
    simp only [List.length_cons]
    omega

end Quoted

/-- The only bare quotes of a quoted text are its first character and its last one. -/
theorem bareQuotes_quote (text : String)
    : bareQuotes 0 (quote text).toList = [0, (quote text).toList.length - 1] := by
  have body (text : List Char) (place : Nat)
      : bareQuotes place (text.flatMap Quoted.escape ++ ['"'])
        = [place + (text.flatMap Quoted.escape).length] := by
    induction text generalizing place with
    | nil => rfl
    | cons c rest ih =>
        rw [List.flatMap_cons, List.append_assoc, Quoted.bareQuotes_escape, ih, List.length_append,
          Nat.add_assoc]
  rw [quote, String.toList_ofList, Quoted.encode, bareQuotes, body]
  congr 2
  simp only [List.length_cons, List.length_append, List.length_nil]
  omega

end GrpcMock.Text
