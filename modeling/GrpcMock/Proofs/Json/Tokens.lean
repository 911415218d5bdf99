import GrpcMock.Json.Reader
import GrpcMock.Json.Writer
import GrpcMock.Proofs.Decimal.Integer
import GrpcMock.Proofs.Text.Quoted
import GrpcMock.Proofs.Text.Runs
import Mathlib.Data.List.Forall2

/-!
The tokens of pretty JSON text. White space between them is passed over, so a value has the tokens
that it is made of, however far it is indented.
-/

namespace GrpcMock.Json

open GrpcMock.Decimal
open GrpcMock.Text (quote)
open GrpcMock.Text.Quoted (encode pieces? pieces?_flatMap_escape join?_map_pieceOf)

-----------------------------------------------------------------------------------------
-- Values that are read back
-----------------------------------------------------------------------------------------

/-- The integers that are read as such. -/
def IsExact (n : Int) : Prop :=
  Range.int64.holds n ∨ Range.uint64.holds n

/-- A value that is read back from its text: its numbers are integers, and not more than so many
arrays and objects in it are open at once. -/
inductive Readable : Nat → Json → Prop
  | null {room : Nat} : Readable room .null
  | bool {room : Nat} {value : Bool} : Readable room (.bool value)
  | integer {room : Nat} {n : Int} (exact : IsExact n) : Readable room (.number (.integer n))
  | string {room : Nat} {text : String} : Readable room (.string text)
  | array {room : Nat} {items : List Json} (each : ∀ item ∈ items, Readable room item)
    : Readable (room + 1) (.array items)
  | object {room : Nat} {members : List (String × Json)}
      (each : ∀ member ∈ members, Readable room member.2)
    : Readable (room + 1) (.object members)

-----------------------------------------------------------------------------------------
-- Single tokens
-----------------------------------------------------------------------------------------

/-- White space before a token is passed over. -/
theorem tokens_space {c : Char} {rest : List Char} (space : isSpace c)
    : tokens (c :: rest) = tokens rest := by
  rw [tokens, if_pos space]

/-- Where no white space stands, the tokens are the first one and those after it. -/
theorem tokens_read {c : Char} {rest after : List Char} {token : Token} (full : isSpace c = false)
    (read : Token.read? c rest = some (token, after))
    : tokens (c :: rest) = (token :: (tokens after).1, (tokens after).2) := by
  rw [tokens, if_neg (by simp [full])]
  split
  · rename_i none
    cases none.symm.trans read
  · rename_i other afterToo same
    cases same.symm.trans read
    rfl

/-- A text is read as some tokens, whatever follows it. -/
def LexesBefore (text : List Char) (parts : List Token) : Prop :=
  ∀ rest, tokens (text ++ rest) = (parts ++ (tokens rest).1, (tokens rest).2)

/-- What can follow a number: nothing that it could go on with. -/
def Ends (text : List Char) : Prop :=
  ∀ c ∈ text.head?, ¬c.isDigit ∧ c ≠ '.' ∧ c ≠ 'e' ∧ c ≠ 'E'

/-- A text is read as some tokens if it does not go on as a number. -/
def Lexes (text : List Char) (parts : List Token) : Prop :=
  ∀ rest, Ends rest → tokens (text ++ rest) = (parts ++ (tokens rest).1, (tokens rest).2)

/-- What is read alike before anything is read alike before what ends it. -/
theorem LexesBefore.lexes {text : List Char} {parts : List Token} (h : LexesBefore text parts)
    : Lexes text parts :=
  fun rest _ => h rest

/-- Texts in a row are read as tokens in a row, and the second one says what may follow. -/
theorem LexesBefore.append {left right : List Char} {first second : List Token}
    (hl : LexesBefore left first) (hr : Lexes right second)
    : Lexes (left ++ right) (first ++ second) := by
  intro rest ends
  rw [List.append_assoc, hl, hr rest ends, List.append_assoc]

/-- If both may stand before anything, so may the two of them. -/
theorem LexesBefore.trans {left right : List Char} {first second : List Token}
    (hl : LexesBefore left first) (hr : LexesBefore right second)
    : LexesBefore (left ++ right) (first ++ second) := by
  intro rest
  rw [List.append_assoc, hl, hr, List.append_assoc]

/-- What follows may be anything that begins with something else than a number goes on with. -/
theorem Lexes.append {left right : List Char} {first second : List Token} (hl : Lexes left first)
    (hr : Lexes right second) (ends : ∀ rest, Ends (right ++ rest))
    : Lexes (left ++ right) (first ++ second) := by
  intro rest more
  rw [List.append_assoc, hl _ (ends rest), hr rest more, List.append_assoc]

/-- A number may stand before anything once something that ends it is put after it. -/
theorem Lexes.closed {left right : List Char} {first second : List Token} (hl : Lexes left first)
    (hr : LexesBefore right second) (ends : ∀ rest, Ends (right ++ rest))
    : LexesBefore (left ++ right) (first ++ second) := by
  intro rest
  rw [List.append_assoc, hl _ (ends rest), hr, List.append_assoc]

/-- A blank is no token. -/
theorem lexesBefore_space {c : Char} (space : isSpace c) : LexesBefore [c] [] :=
  fun _ => tokens_space space

/-- A mark is a token wherever it stands. -/
theorem lexesBefore_mark {mark : String} {c : Char} {token : Token} (spelled : mark.toList = [c])
    (full : isSpace c = false) (marks : punctuation? c = some token)
    : LexesBefore mark.toList [token] := by
  rw [spelled]
  exact fun _ => tokens_read full (by rw [Token.read?, marks]; rfl)

/-- Several blanks are no token either, by induction on them. -/
theorem lexesBefore_spaces {text : List Char} (spaces : ∀ c ∈ text, isSpace c)
    : LexesBefore text [] := by
  induction text with
  | nil => exact fun _ => rfl
  | cons c rest ih =>
      obtain ⟨first, others⟩ := List.forall_mem_cons.mp spaces
      exact (lexesBefore_space first).trans (ih others)

/-- A line break with the indentation after it is no token. -/
theorem lexesBefore_lineBreak (level : Nat) : LexesBefore (lineBreak level).toList [] := by
  apply lexesBefore_spaces
  intro c member
  rw [lineBreak, String.toList_append] at member
  rcases List.mem_append.mp member with newline | indentation
  · cases List.mem_singleton.mp newline
    decide
  · rw [String.toList_ofList] at indentation
    cases List.eq_of_mem_replicate indentation
    decide

/-- A word is a token by itself; letters right after it belong to the next one. -/
theorem lexesBefore_word {word : String} {c : Char} {letters : List Char} {value : Json}
    (spelled : word.toList = c :: letters) (full : isSpace c = false)
    (unmarked : punctuation? c = none) (means : word? c = some (letters, value))
    : LexesBefore word.toList [.leaf value] := by
  intro rest
  rw [spelled]
  refine tokens_read full ?_
  have front : letters.isPrefixOf (letters ++ rest) :=
    List.isPrefixOf_iff_prefix.mpr (List.prefix_append ..)
  rw [Token.read?, unmarked, means]
  change (if letters.isPrefixOf (letters ++ rest) then _ else none) = _
  rw [if_pos front]
  exact congrArg (fun left => some (Token.leaf value, left)) List.drop_left

/-- A quoted text is one token, and its value is the text. -/
theorem lexesBefore_quote (text : String)
    : LexesBefore (quote text).toList [.string (some text)] := by
  intro rest
  rw [quote, String.toList_ofList, encode, List.cons_append, List.append_assoc]
  refine tokens_read (by decide) ?_
  change (pieces? _).map _ = _
  rw [List.singleton_append, pieces?_flatMap_escape, Option.map_some, join?_map_pieceOf,
    Option.map_some, String.ofList_toList]

/-- Only zero itself begins with a zero, by induction on the number without its last digit. -/
theorem eq_zero_of_head?_toDigits {n : Nat} (zero : (Nat.toDigits 10 n).head? = some '0')
    : n = 0 := by
  induction n using Nat.strongRecOn with
  | ind n ih =>
      by_cases small : n < 10
      · rw [Nat.toDigits_of_lt_base small] at zero
        exact Nat.digitChar_eq_zero.mp (Option.some.inj zero)
      · have more : Nat.toDigits 10 n = Nat.toDigits 10 (n / 10) ++ [(n % 10).digitChar] :=
          Nat.toDigits_of_base_le (by decide) (Nat.not_lt.mp small)
        rw [more, List.head?_append_of_ne_nil _ Nat.toDigits_ne_nil] at zero
        have := ih (n / 10) (by omega) zero
        omega

/-- All digits before something else belong to one run. -/
theorem spanDigits_append {digits rest : List Char} (all : ∀ c ∈ digits, c.isDigit)
    (ends : Ends rest)
    : spanDigits (digits ++ rest) = (digits, rest) := by
  have whole : (digits ++ rest).takeWhile Char.isDigit = digits :=
    Text.takeWhile_run all fun c first => Bool.eq_false_iff.mpr (ends c first).1
  have both : (digits ++ rest).takeWhile Char.isDigit ++ (digits ++ rest).dropWhile Char.isDigit
      = digits ++ rest :=
    List.takeWhile_append_dropWhile
  rw [whole] at both
  rw [spanDigits, whole, List.append_cancel_left both]

/-- Where a number ends it has no fraction. -/
theorem readFraction?_of_ends {text : List Char} (ends : Ends text)
    : readFraction? text = some ([], text) := by
  unfold readFraction?
  split
  · exact absurd rfl (ends '.' rfl).2.1
  · rfl

/-- Where a number ends it has no exponent. -/
theorem readExponent?_of_ends {text : List Char} (ends : Ends text)
    : readExponent? text = some (none, text) := by
  cases text with
  | nil => rfl
  | cons c rest => exact if_neg (not_or.mpr (ends c rfl).2.2)

/-- The digits of a natural number are read as these digits. -/
theorem readMagnitude?_toDigits (negative : Bool) (n : Nat) {rest : List Char} (ends : Ends rest)
    : readMagnitude? negative (Nat.toDigits 10 n ++ rest)
      = some (integerToken negative (Nat.toDigits 10 n), rest) := by
  have span := spanDigits_append (fun _ => isDigit_toDigits (n := n)) ends
  have full : (Nat.toDigits 10 n).isEmpty = false :=
    List.isEmpty_eq_false_iff.mpr Nat.toDigits_ne_nil
  have plain
      : ((Nat.toDigits 10 n).head? = some '0' && (Nat.toDigits 10 n).length ≠ 1) = false := by
    by_cases zero : (Nat.toDigits 10 n).head? = some '0'
    · cases eq_zero_of_head?_toDigits zero
      decide
    · rw [decide_eq_false zero, Bool.false_and]
  simp only [readMagnitude?, span, full, plain, readFraction?_of_ends ends,
    readExponent?_of_ends ends, Bool.or_false, Bool.false_eq_true, if_false, Option.bind_eq_bind,
    Option.bind_some]
  rfl

/-- A natural number that is exact is read as itself from its digits. -/
theorem integerToken_toDigits {n : Nat} (exact : IsExact n)
    : integerToken false (Nat.toDigits 10 n) = .leaf (.number (.integer n)) := by
  have held : Range.uint64.holds n := by
    rcases exact with signed | unsigned
    · have := Range.holds_iff.mp signed
      exact Range.holds_iff.mpr ⟨Int.natCast_nonneg n, Int.le_trans this.2 (by decide)⟩
    · exact unsigned
  simp [integerToken, digitsValue_toDigits, held]

/-- So is a negative number behind its sign. -/
theorem integerToken_negSucc {n : Nat} (exact : IsExact (Int.negSucc n))
    : integerToken true (Nat.toDigits 10 (n + 1)) = .leaf (.number (.integer (Int.negSucc n))) := by
  have held : Range.int64.holds (Int.negSucc n) := by
    refine exact.resolve_right fun unsigned => ?_
    exact absurd (Range.holds_iff.mp unsigned).1 (Int.not_le.mpr (Int.negSucc_lt_zero n))
  have same : -Int.ofNat (n + 1) = Int.negSucc n := rfl
  have full : Int.ofNat (n + 1) ≠ 0 := Int.natCast_ne_zero.mpr (Nat.succ_ne_zero n)
  simp only [integerToken, digitsValue_toDigits, same, full, held, if_true, decide_false,
    Bool.and_false, Bool.false_eq_true, if_false]

/-- A number without sign is read from its first digit on. -/
theorem tokens_digit {c : Char} {rest after : List Char} {token : Token} (digit : c.isDigit)
    (read : readMagnitude? false (c :: rest) = some (token, after))
    : tokens (c :: rest) = (token :: (tokens after).1, (tokens after).2) := by
  have other (d : Char) (unlike : d.isDigit = false) : c ≠ d := by
    rintro rfl
    exact Bool.false_ne_true (unlike.symm.trans digit)
  have full : isSpace c = false := by
    simp [isSpace, other ' ' rfl, other '\n' rfl, other '\t' rfl, other '\r' rfl]
  have unmarked : punctuation? c = none := by
    simp [punctuation?, other '[' rfl, other ']' rfl, other '\x7b' rfl, other '\x7d' rfl,
      other ',' rfl, other ':' rfl]
  have noWord : word? c = none := by
    simp [word?, other 'n' rfl, other 't' rfl, other 'f' rfl]
  refine tokens_read full ?_
  rw [Token.read?, unmarked, noWord]
  dsimp only
  rw [if_neg (other '"' rfl), if_neg (other '-' rfl), read]

/-- An exact integer is one token, by its sign. -/
theorem lexes_integer {n : Int} (exact : IsExact n)
    : Lexes (toString n).toList [.leaf (.number (.integer n))] := by
  intro rest ends
  cases n with
  | ofNat n =>
      obtain ⟨first, others, digits, -⟩ := toDigits_cons n
      have isDigit : first.isDigit := isDigit_toDigits (digits ▸ List.mem_cons_self ..)
      have read := readMagnitude?_toDigits false n ends
      rw [integerToken_toDigits exact, digits] at read
      rw [Int.ofNat_eq_natCast, toList_natCast, digits]
      exact tokens_digit isDigit read
  | negSucc n =>
      have read := readMagnitude?_toDigits true (n + 1) ends
      rw [integerToken_negSucc exact] at read
      rw [toList_negSucc]
      exact tokens_read (by decide) read

-----------------------------------------------------------------------------------------
-- Values
-----------------------------------------------------------------------------------------

mutual
/-- The tokens of a value, without white space. -/
def tokensOf : Json → List Token
  | .null => [.leaf .null]
  | .bool value => [.leaf (.bool value)]
  | .number value => [.leaf (.number value)]
  | .string value => [.string (some value)]
  | .array items => .openArray :: ([.comma].intercalate (itemTokens items) ++ [.closeArray])
  | .object members =>
      .openObject :: ([.comma].intercalate (memberTokens members) ++ [.closeObject])

def itemTokens : List Json → List (List Token)
  | [] => []
  | item :: rest => tokensOf item :: itemTokens rest

def memberTokens : List (String × Json) → List (List Token)
  | [] => []
  | (name, value) :: rest => (.string (some name) :: .colon :: tokensOf value) :: memberTokens rest
end

/-- Whether a number ends is seen from the first character after it. -/
theorem ends_cons {c : Char} {rest : List Char}
    (other : ¬c.isDigit ∧ c ≠ '.' ∧ c ≠ 'e' ∧ c ≠ 'E')
    : Ends (c :: rest) := by
  rintro _ ⟨⟩
  exact other

/-- A number ends at the end of its line. -/
theorem ends_lineBreak (level : Nat) (rest : List Char)
    : Ends ((lineBreak level).toList ++ rest) := by
  rw [lineBreak, String.toList_append]
  exact ends_cons (by decide)

/-- Parts on lines of their own have commas between them. -/
theorem lexes_parts (level : Nat) {parts : List String} {groups : List (List Token)}
    (each : List.Forall₂ (fun part group => Lexes part.toList group) parts groups)
    : Lexes (("," ++ lineBreak level).intercalate parts).toList ([.comma].intercalate groups) := by
  induction each with
  | nil => exact fun _ _ => rfl
  | @cons part group others more first rest ih =>
      cases rest with
      | nil =>
          rwa [String.intercalate_singleton, List.intercalate_singleton]
      | cons =>
          rw [String.intercalate_cons_cons, List.intercalate_cons_cons]
          simp only [String.toList_append, List.append_assoc]
          have comma : LexesBefore ",".toList [.comma] := lexesBefore_mark rfl rfl rfl
          refine first.append (comma.append ?_) fun _ => ends_cons (by decide)
          exact (lexesBefore_lineBreak level).append ih

/-- Parts between brackets are read as what they are read as, with the brackets around it. -/
theorem lexesBefore_bracketed {level : Nat} {opening closing : String} {first last : Token}
    {parts : List String} {groups : List (List Token)}
    (opens : LexesBefore opening.toList [first]) (closes : LexesBefore closing.toList [last])
    (each : List.Forall₂ (fun part group => Lexes part.toList group) parts groups)
    : LexesBefore (bracketed level opening closing parts).toList
        (first :: ([.comma].intercalate groups ++ [last])) := by
  unfold bracketed
  cases each with
  | nil =>
      rw [List.isEmpty_nil, if_pos rfl, String.toList_append]
      exact opens.trans closes
  | cons part others =>
      rw [List.isEmpty_cons, if_neg Bool.false_ne_true]
      simp only [String.toList_append, List.append_assoc]
      have ending := (lexesBefore_lineBreak level).trans closes
      have lines := (lexes_parts (level + 1) (.cons part others)).closed ending fun rest => by
        rw [List.append_assoc]
        exact ends_lineBreak level _
      exact opens.trans ((lexesBefore_lineBreak (level + 1)).trans lines)

/-- The items of an array are written each for itself. -/
theorem prettyItems_eq_map (level : Nat) (items : List Json)
    : prettyItems level items = items.map (prettyAt level) := by
  induction items with
  | nil => rfl
  | cons item rest ih => rw [prettyItems, ih, List.map_cons]

/-- So are their tokens. -/
theorem itemTokens_eq_map (items : List Json) : itemTokens items = items.map tokensOf := by
  induction items with
  | nil => rfl
  | cons item rest ih => rw [itemTokens, ih, List.map_cons]

/-- The members of an object are written each with its name, a colon and its value. -/
theorem prettyMembers_eq_map (level : Nat) (members : List (String × Json))
    : prettyMembers level members
      = members.map fun member => quote member.1 ++ ": " ++ prettyAt level member.2 := by
  induction members with
  | nil => rfl
  | cons member rest ih => rw [prettyMembers, ih, List.map_cons]

/-- So are their tokens. -/
theorem memberTokens_eq_map (members : List (String × Json))
    : memberTokens members
      = members.map fun member => .string (some member.1) :: .colon :: tokensOf member.2 := by
  induction members with
  | nil => rfl
  | cons member rest ih => rw [memberTokens, ih, List.map_cons]

/-- A value is read as its tokens, however far it is indented. -/
theorem lexes_prettyAt {room : Nat} {value : Json} (readable : Readable room value) (level : Nat)
    : Lexes (prettyAt level value).toList (tokensOf value) := by
  induction readable generalizing level with
  | null =>
      rw [prettyAt, tokensOf]
      exact (lexesBefore_word (c := 'n') rfl rfl rfl rfl).lexes
  | @bool _ value =>
      rw [prettyAt, tokensOf]
      cases value with
      | false => exact (lexesBefore_word (c := 'f') rfl rfl rfl rfl).lexes
      | true => exact (lexesBefore_word (c := 't') rfl rfl rfl rfl).lexes
  | integer exact => exact lexes_integer exact
  | string => exact (lexesBefore_quote _).lexes
  | @array _ items _ ih =>
      rw [prettyAt, tokensOf, prettyItems_eq_map, itemTokens_eq_map]
      have opens : LexesBefore "[".toList [.openArray] := lexesBefore_mark rfl rfl rfl
      have closes : LexesBefore "]".toList [.closeArray] := lexesBefore_mark rfl rfl rfl
      refine (lexesBefore_bracketed opens closes ?_).lexes
      rw [List.forall₂_map_left_iff, List.forall₂_map_right_iff, List.forall₂_same]
      exact fun item member => ih item member (level + 1)
  | @object _ members _ ih =>
      rw [prettyAt, tokensOf, prettyMembers_eq_map, memberTokens_eq_map]
      have opens : LexesBefore "\x7b".toList [.openObject] := lexesBefore_mark rfl rfl rfl
      have closes : LexesBefore "\x7d".toList [.closeObject] := lexesBefore_mark rfl rfl rfl
      refine (lexesBefore_bracketed opens closes ?_).lexes
      rw [List.forall₂_map_left_iff, List.forall₂_map_right_iff, List.forall₂_same]
      intro member inside
      rw [String.toList_append, String.toList_append, List.append_assoc]
      have mark : LexesBefore ":".toList [.colon] := lexesBefore_mark rfl rfl rfl
      have colon : LexesBefore ": ".toList [.colon] := mark.trans (lexesBefore_space rfl)
      exact (lexesBefore_quote member.1).append (colon.append (ih member inside (level + 1)))

/-- The tokens of a text that is written, which reach to its end. -/
theorem tokens_pretty {room : Nat} {value : Json} (readable : Readable room value)
    : tokens (pretty value).toList = (tokensOf value, true) := by
  have read := lexes_prettyAt readable 0 [] nofun
  rw [List.append_nil, tokens, List.append_nil] at read
  exact read

end GrpcMock.Json
