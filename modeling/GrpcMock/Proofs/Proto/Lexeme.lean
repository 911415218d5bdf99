import GrpcMock.Proofs.Text.CodeRange
import GrpcMock.Proofs.Text.Runs
import GrpcMock.Proto.Lexeme

/-!
Lexemes that are cut out of their text. A token is found again wherever it is put, as long as no
word or name goes on in front of it or after it; the first character tells its kind.
-/

namespace GrpcMock.Proto

open GrpcMock.Text

/-- What may follow a lexeme without becoming part of it: nothing that a word or name goes on with.
-/
def Ends (after : List Char) : Prop :=
  ∀ c ∈ after.head?, isWordChar c = false ∧ c ≠ '.'

/-- What a reader finds at the front of a text it finds again when that is cut out, whatever follows
then. -/
def Keeps (read : List Char → Option Nat) : Prop :=
  ∀ text n,
    read text = some n
    → n ≤ text.length ∧ ∀ after, Ends after → read (text.take n ++ after) = some n

-----------------------------------------------------------------------------------------
-- Strings and punctuation
-----------------------------------------------------------------------------------------

/-- The rest of a string is found again, up to its closing quote. -/
theorem stringTail?_keeps : Keeps stringTail? := by
  intro text n h
  fun_induction stringTail? text generalizing n with
  | case1 => cases h
  | case2 rest =>
      cases h
      exact ⟨by simp, fun after _ => rfl⟩
  | case3 => cases h
  | case4 c rest sameLine ih =>
      obtain ⟨m, found, rfl⟩ := Option.map_eq_some_iff.mp h
      obtain ⟨fits, again⟩ := ih m found
      refine ⟨Nat.add_le_add_right fits 2, fun after ends => ?_⟩
      rw [List.take_succ_cons, List.take_succ_cons, List.cons_append, List.cons_append, stringTail?,
        if_neg sameLine, again after ends]
      rfl
  | case5 => cases h
  | case6 c rest notQuote notEscape plain ih =>
      obtain ⟨m, found, rfl⟩ := Option.map_eq_some_iff.mp h
      obtain ⟨fits, again⟩ := ih m found
      refine ⟨Nat.succ_le_succ fits, fun after ends => ?_⟩
      rw [List.take_succ_cons, List.cons_append, stringTail?, if_neg plain, again after ends]
      · rfl
      · exact notQuote
      · exact fun _ _ same => absurd (.inr same) plain

/-- So is a whole string. -/
theorem string?_keeps : Keeps string? := by
  intro text n h
  unfold string? at h
  split at h
  · obtain ⟨m, found, rfl⟩ := Option.map_eq_some_iff.mp h
    obtain ⟨fits, again⟩ := stringTail?_keeps _ m found
    refine ⟨Nat.succ_le_succ fits, fun after ends => ?_⟩
    rw [List.take_succ_cons, List.cons_append, string?, again after ends]
    rfl
  · cases h

/-- A mark is found again, as it is one character. -/
theorem punctuation?_keeps : Keeps punctuation? := by
  intro text n h
  unfold punctuation? at h
  split at h
  · split at h
    · cases h
      rename_i c rest sign
      exact ⟨by simp, fun after _ => if_pos sign⟩
    · cases h
  · cases h

-----------------------------------------------------------------------------------------
-- Numbers
-----------------------------------------------------------------------------------------

/-- What may follow a lexeme goes on with no digit. -/
theorem Ends.isDecimalDigit {after : List Char} (ends : Ends after)
    : ∀ c ∈ after.head?, isDecimalDigit c = false := by
  intro c first
  have unlike := (ends c first).1
  simp only [isWordChar, Bool.or_eq_false_iff] at unlike
  exact unlike.1.2

/-- Neither does it go on with a character of names. -/
theorem Ends.isNameChar {after : List Char} (ends : Ends after)
    : ∀ c ∈ after.head?, isNameChar c = false := by
  intro c first
  have unlike := (ends c first).1
  simp only [isWordChar, Bool.or_eq_false_iff] at unlike
  exact unlike.1.1

/-- Neither does it go on with a character of words. -/
theorem Ends.any_isWordChar {after : List Char} (ends : Ends after)
    : after.head?.any isWordChar = false := by
  cases after with
  | nil => rfl
  | cons c rest => exact (ends c rfl).1

/-- A run of digits is a number if no word goes on after it. -/
theorem digits?_run {run after : List Char} (all : ∀ c ∈ run, isDecimalDigit c)
    (ends : ∀ c ∈ after.head?, isDecimalDigit c = false)
    : digits? (run ++ after)
      = if run = [] ∨ after.head?.any isWordChar then none else some run.length := by
  rw [digits?, takeWhile_run all ends]
  simp

/-- A run of digits is found again. -/
theorem digits?_keeps : Keeps digits? := by
  intro text n h
  obtain ⟨run, rest, rfl, all, stops⟩ := exists_run isDecimalDigit text
  rw [digits?_run all stops] at h
  split at h
  · cases h
  rename_i proper
  cases h
  refine ⟨by simp, fun after ends => ?_⟩
  rw [List.take_left, digits?_run all ends.isDecimalDigit, if_neg]
  simpa [ends.any_isWordChar] using fun empty => proper (.inl empty)

/-- A run of digits begins with a digit. -/
theorem digits?_front {text : List Char} {n : Nat} (h : digits? text = some n)
    : ∃ c rest m, text = c :: rest ∧ n = m + 1 ∧ isDecimalDigit c := by
  obtain ⟨run, rest, rfl, all, stops⟩ := exists_run isDecimalDigit text
  rw [digits?_run all stops] at h
  split at h
  · cases h
  cases h
  cases run with
  | nil => simp_all
  | cons c others => exact ⟨c, others ++ rest, others.length, rfl, rfl, all c (by simp)⟩

/-- A number stands where no word runs into it. -/
theorem number?_keeps {before other : Option Char} (apart : other.any isWordChar = false)
    {text : List Char} {n : Nat} (h : number? before text = some n)
    : n ≤ text.length ∧ ∀ after, Ends after → number? other (text.take n ++ after) = some n := by
  unfold number? at h
  split at h
  · rename_i rest
    obtain ⟨m, found, rfl⟩ := Option.map_eq_some_iff.mp h
    obtain ⟨fits, again⟩ := digits?_keeps rest m found
    refine ⟨Nat.succ_le_succ fits, fun after ends => ?_⟩
    rw [List.take_succ_cons, List.cons_append, number?, again after ends]
    rfl
  · rename_i noSign
    split at h
    · cases h
    obtain ⟨fits, again⟩ := digits?_keeps text n h
    refine ⟨fits, fun after ends => ?_⟩
    have found := again after ends
    obtain ⟨c, rest, m, rfl, rfl, -⟩ := digits?_front h
    rw [List.take_succ_cons, List.cons_append] at found ⊢
    rw [number?, apart, if_neg Bool.false_ne_true, found]
    exact fun _ same => noSign rest (by rw [(List.cons.inj same).1])

-----------------------------------------------------------------------------------------
-- Names
-----------------------------------------------------------------------------------------

/-- The length of a dotted name, from that of its first name and from what comes after this. -/
def dottedTail? (length : Nat) : List Char → Option Nat
  | [] => some length
  | c :: rest =>
      if c = '.' then some (((dottedName? rest).map (· + (length + 1))).getD length)
      else if isWordChar c then none
      else some length

/-- A dotted name ends where no name goes on. -/
theorem dottedTail?_of_ends {length : Nat} {after : List Char} (ends : Ends after)
    : dottedTail? length after = some length := by
  cases after with
  | nil => rfl
  | cons c rest =>
      obtain ⟨noWord, noDot⟩ := ends c rfl
      rw [dottedTail?, if_neg noDot, noWord, if_neg Bool.false_ne_true]

/-- The name ends with its first part, or a dotted name follows after a dot. -/
theorem dottedTail?_eq_some {length n : Nat} {rest : List Char}
    (h : dottedTail? length rest = some n)
    : n = length
      ∨ ∃ others m, rest = '.' :: others ∧ dottedName? others = some m ∧ n = m + (length + 1) := by
  cases rest with
  | nil =>
      cases h
      exact .inl rfl
  | cons c others =>
      rw [dottedTail?] at h
      split at h
      · rename_i dot
        subst dot
        cases found : dottedName? others with
        | none =>
            rw [found] at h
            cases h
            exact .inl rfl
        | some m =>
            rw [found] at h
            cases h
            exact .inr ⟨others, m, rfl, found, rfl⟩
      · split at h
        · cases h
        · cases h
          exact .inl rfl

/-- The first part of a dotted name is the run of its characters. -/
theorem dottedName?_run {run after : List Char} (start : run.head?.any isNameStart)
    (all : ∀ c ∈ run, isNameChar c) (stops : ∀ c ∈ after.head?, isNameChar c = false)
    : dottedName? (run ++ after) = dottedTail? run.length after := by
  have first : (run ++ after).head?.any isNameStart := by
    cases run with
    | nil => cases start
    | cons => exact start
  rw [dottedName?]
  simp only [first, takeWhile_run all stops, if_true]
  split
  · rename_i empty
    rw [takeWhile_run all stops, List.drop_left] at empty
    rw [empty, dottedTail?]
  · rename_i c others split
    rw [takeWhile_run all stops, List.drop_left] at split
    rw [split, dottedTail?]

/-- A dotted name begins like a name. -/
theorem dottedName?_start {text : List Char} {n : Nat} (h : dottedName? text = some n)
    : text.head?.any isNameStart := by
  rw [dottedName?] at h
  split at h
  · assumption
  · cases h

/-- A dotted name begins with a name, which decides on its length with what comes after. -/
theorem dottedName?_eq_some {text : List Char} {n : Nat} (h : dottedName? text = some n)
    : ∃ run rest,
        text = run ++ rest
        ∧ run.head?.any isNameStart
        ∧ (∀ c ∈ run, isNameChar c)
        ∧ (∀ c ∈ rest.head?, isNameChar c = false)
        ∧ dottedTail? run.length rest = some n := by
  have start := dottedName?_start h
  obtain ⟨run, rest, rfl, all, stops⟩ := exists_run isNameChar text
  have first : run.head?.any isNameStart := by
    cases run with
    | cons => exact start
    | nil =>
        cases rest with
        | nil => cases start
        | cons c others => cases (stops c rfl).symm.trans (isNameChar_of_isNameStart start)
  exact ⟨run, rest, rfl, first, all, stops, (dottedName?_run first all stops).symm.trans h⟩

/-- By induction on the length of the text: after a dot another dotted name may begin. -/
theorem dottedName?_keeps : Keeps dottedName? := by
  intro text
  induction length : text.length using Nat.strongRecOn generalizing text with
  | ind count ih =>
      intro n h
      obtain ⟨run, rest, rfl, start, all, stops, tail⟩ := dottedName?_eq_some h
      rcases dottedTail?_eq_some tail with rfl | ⟨others, m, rfl, found, rfl⟩
      · refine ⟨by simp [← length], fun after ends => ?_⟩
        rw [List.take_left, dottedName?_run start all ends.isNameChar, dottedTail?_of_ends ends]
      · rw [List.length_append, List.length_cons] at length
        obtain ⟨fits, again⟩ := ih others.length (by omega) others rfl m found
        refine ⟨by omega, fun after ends => ?_⟩
        have cut
            : (run ++ '.' :: others).take (m + (run.length + 1)) ++ after
              = run ++ '.' :: (others.take m ++ after) := by
          rw [Nat.add_left_comm, List.take_length_add_append, List.take_succ_cons,
            List.append_assoc, List.cons_append]
        rw [cut, dottedName?_run start all (by simp; decide), dottedTail?, if_pos rfl,
          again after ends]
        rfl

/-- The first character of a dotted name is one that names begin with. -/
theorem dottedName?_front {text : List Char} {n : Nat} (h : dottedName? text = some n)
    : ∃ c rest m, text = c :: rest ∧ n = m + 1 ∧ isNameStart c := by
  obtain ⟨run, rest, rfl, start, -, -, tail⟩ := dottedName?_eq_some h
  cases run with
  | nil => cases start
  | cons c others =>
      rcases dottedTail?_eq_some tail with rfl | ⟨-, m, -, -, rfl⟩
      · exact ⟨c, others ++ rest, others.length, rfl, rfl, start⟩
      · exact ⟨c, others ++ rest, m + (others.length + 1), rfl, rfl, start⟩

/-- A name is found again with its dots, in front or within, unless a word runs into it. -/
theorem name?_keeps {before other : Option Char} (apart : other.any isWordChar = false)
    {text : List Char} {n : Nat} (h : name? before text = some n)
    : n ≤ text.length ∧ ∀ after, Ends after → name? other (text.take n ++ after) = some n := by
  unfold name? at h
  split at h
  · rename_i rest
    obtain ⟨m, found, rfl⟩ := Option.map_eq_some_iff.mp h
    obtain ⟨fits, again⟩ := dottedName?_keeps rest m found
    refine ⟨Nat.succ_le_succ fits, fun after ends => ?_⟩
    rw [List.take_succ_cons, List.cons_append, name?, again after ends]
    rfl
  · rename_i noDot
    split at h
    · cases h
    obtain ⟨fits, again⟩ := dottedName?_keeps text n h
    refine ⟨fits, fun after ends => ?_⟩
    have found := again after ends
    obtain ⟨c, rest, m, rfl, rfl, -⟩ := dottedName?_front h
    rw [List.take_succ_cons, List.cons_append] at found ⊢
    rw [name?, apart, if_neg Bool.false_ne_true, found]
    exact fun _ same => noDot rest (by rw [(List.cons.inj same).1])

-----------------------------------------------------------------------------------------
-- Tokens
-----------------------------------------------------------------------------------------

/-- The length of the lexeme of a kind at the front of a text. -/
def LexemeKind.length? (before : Option Char) (text : List Char) : LexemeKind → Option Nat
  | .string => string? text
  | .number => number? before text
  | .punctuation => punctuation? text
  | .name => name? before text
  | .lineComment => lineComment? text
  | .blockComment => blockComment? text
  | .blank => blank? text

/-- The kind of the tokens that begin with a character. -/
def kindOf? (c : Char) : Option LexemeKind :=
  if c = '"' then some .string
  else if c = '-' ∨ isDecimalDigit c then some .number
  else if isPunctuation c then some .punctuation
  else if c = '.' ∨ isNameStart c then some .name
  else none

/-- What begins like a name is a name. -/
theorem kindOf?_of_isNameStart {c : Char} (h : isNameStart c) : kindOf? c = some .name :=
  ascii_forall (p := fun c => isNameStart c → kindOf? c = some .name) (by decide)
    (isNameChar_small (isNameChar_of_isNameStart h)) h

/-- What begins with a digit is a number, whatever script the digit is of. -/
theorem kindOf?_of_isDecimalDigit {c : Char} (h : isDecimalDigit c)
    : kindOf? c = some .number := by
  have notQuote : c ≠ '"' := by
    rintro rfl
    revert h
    decide
  rw [kindOf?, if_neg notQuote, if_pos (.inr h)]

/-- Marks are ASCII characters. -/
theorem isPunctuation_small {c : Char} (h : isPunctuation c) : c.toNat < 128 := by
  simp only [isPunctuation, decide_eq_true_eq, List.mem_cons, List.not_mem_nil, or_false] at h
  rcases h with rfl | rfl | rfl | rfl | rfl | rfl | rfl | rfl | rfl | rfl | rfl <;> decide

/-- What begins with a mark is one. -/
theorem kindOf?_of_isPunctuation {c : Char} (h : isPunctuation c)
    : kindOf? c = some .punctuation :=
  ascii_forall (p := fun c => isPunctuation c → kindOf? c = some .punctuation) (by decide)
    (isPunctuation_small h) h

/-- No token begins with white space. -/
theorem not_isBlank_of_kindOf? {c : Char} {kind : LexemeKind} (h : kindOf? c = some kind)
    : isBlank c = false := by
  unfold kindOf? at h
  split at h
  · rename_i same
    rw [same]
    decide
  split at h
  · rename_i number
    rcases number with rfl | digit
    · decide
    · exact not_isBlank_of_isDecimalDigit digit
  split at h
  · rename_i sign
    exact ascii_forall (p := fun c => isPunctuation c → isBlank c = false) (by decide)
      (isPunctuation_small sign) sign
  split at h
  · rename_i name
    rcases name with rfl | start
    · decide
    · exact ascii_forall (p := fun c => isNameStart c → isBlank c = false) (by decide)
        (isNameChar_small (isNameChar_of_isNameStart start)) start
  · cases h

/-- The first character of a token tells its kind. -/
theorem LexemeKind.length?_front {before : Option Char} {text : List Char} {kind : LexemeKind}
    {n : Nat} (token : kind.isSkipped = false) (h : kind.length? before text = some n)
    : ∃ c rest m, text = c :: rest ∧ n = m + 1 ∧ kindOf? c = some kind := by
  cases kind with
  | string =>
      change string? text = some n at h
      unfold string? at h
      split at h
      · obtain ⟨m, -, rfl⟩ := Option.map_eq_some_iff.mp h
        exact ⟨_, _, m, rfl, rfl, rfl⟩
      · cases h
  | number =>
      change number? before text = some n at h
      unfold number? at h
      split at h
      · obtain ⟨m, -, rfl⟩ := Option.map_eq_some_iff.mp h
        exact ⟨_, _, m, rfl, rfl, rfl⟩
      · split at h
        · cases h
        obtain ⟨c, rest, m, rfl, rfl, digit⟩ := digits?_front h
        exact ⟨c, rest, m, rfl, rfl, kindOf?_of_isDecimalDigit digit⟩
  | punctuation =>
      change punctuation? text = some n at h
      unfold punctuation? at h
      split at h
      · split at h
        · cases h
          rename_i c rest sign
          exact ⟨c, rest, 0, rfl, rfl, kindOf?_of_isPunctuation sign⟩
        · cases h
      · cases h
  | name =>
      change name? before text = some n at h
      unfold name? at h
      split at h
      · obtain ⟨m, -, rfl⟩ := Option.map_eq_some_iff.mp h
        exact ⟨_, _, m, rfl, rfl, rfl⟩
      · split at h
        · cases h
        obtain ⟨c, rest, m, rfl, rfl, start⟩ := dottedName?_front h
        exact ⟨c, rest, m, rfl, rfl, kindOf?_of_isNameStart start⟩
  | _ => cases token

/-- A token of any kind is found again, wherever no word runs into it. -/
theorem LexemeKind.length?_keeps {before other : Option Char} {text : List Char}
    {kind : LexemeKind} {n : Nat} (token : kind.isSkipped = false)
    (h : kind.length? before text = some n) (apart : other.any isWordChar = false)
    : n ≤ text.length
      ∧ ∀ after, Ends after → kind.length? other (text.take n ++ after) = some n := by
  cases kind with
  | string => exact string?_keeps text n h
  | number => exact number?_keeps apart h
  | punctuation => exact punctuation?_keeps text n h
  | name => exact name?_keeps apart h
  | _ => cases token

/-- The lexeme at the front of a text has the length that its kind has there. -/
theorem length?_of_lexeme? {before : Option Char} {text : List Char} {kind : LexemeKind} {n : Nat}
    (h : lexeme? before text = some (kind, n))
    : kind.length? before text = some n := by
  simp only [lexeme?, Option.orElse_eq_orElse, Option.orElse_eq_or, Option.or_eq_some_iff,
    Option.map_eq_some_iff, Prod.mk.injEq] at h
  rcases h with ⟨_, found, rfl, rfl⟩ | ⟨-, ⟨_, found, rfl, rfl⟩ | ⟨-, ⟨_, found, rfl, rfl⟩ | ⟨-,
    ⟨_, found, rfl, rfl⟩ | ⟨-, ⟨_, found, rfl, rfl⟩ | ⟨-, ⟨_, found, rfl, rfl⟩ | ⟨-, _, found, rfl,
    rfl⟩⟩⟩⟩⟩⟩
  all_goals exact found

/-- A token that is found is the lexeme there, as no other kind begins like it. -/
theorem lexeme?_of_length? {before : Option Char} {text : List Char} {kind : LexemeKind} {n : Nat}
    (token : kind.isSkipped = false) (h : kind.length? before text = some n)
    : lexeme? before text = some (kind, n) := by
  have missing (other : LexemeKind) (otherToken : other.isSkipped = false) (unlike : other ≠ kind)
      : other.length? before text = none := by
    obtain ⟨c, rest, m, rfl, -, known⟩ := LexemeKind.length?_front token h
    refine Option.eq_none_iff_forall_ne_some.mpr fun length found => ?_
    obtain ⟨_, _, _, same, -, knownToo⟩ := LexemeKind.length?_front otherToken found
    cases same
    exact unlike (Option.some.inj (knownToo.symm.trans known))
  cases kind with
  | string =>
      have found : string? text = some n := h
      simp [lexeme?, found]
  | number =>
      have noString : string? text = none := missing .string rfl (by decide)
      have found : number? before text = some n := h
      simp [lexeme?, noString, found]
  | punctuation =>
      have noString : string? text = none := missing .string rfl (by decide)
      have noNumber : number? before text = none := missing .number rfl (by decide)
      have found : punctuation? text = some n := h
      simp [lexeme?, noString, noNumber, found]
  | name =>
      have noString : string? text = none := missing .string rfl (by decide)
      have noNumber : number? before text = none := missing .number rfl (by decide)
      have noSign : punctuation? text = none := missing .punctuation rfl (by decide)
      have found : name? before text = some n := h
      simp [lexeme?, noString, noNumber, noSign, found]
  | _ => cases token

/-- A token that is cut out of its text is the lexeme wherever it stands apart. -/
theorem lexeme?_keeps {before other : Option Char} {text : List Char} {kind : LexemeKind} {n : Nat}
    (token : kind.isSkipped = false) (h : lexeme? before text = some (kind, n))
    (apart : other.any isWordChar = false)
    : n ≤ text.length
      ∧ ∀ after, Ends after → lexeme? other (text.take n ++ after) = some (kind, n) := by
  obtain ⟨fits, again⟩ := LexemeKind.length?_keeps token (length?_of_lexeme? h) apart
  exact ⟨fits, fun after ends => lexeme?_of_length? token (again after ends)⟩

/-- Where no token begins, a comment or white space may be the lexeme. -/
theorem lexeme?_of_kindOf? {c : Char} (noToken : kindOf? c = none) (before : Option Char)
    (rest : List Char)
    : lexeme? before (c :: rest)
      = ((lineComment? (c :: rest)).map (LexemeKind.lineComment, ·)
          <|> (blockComment? (c :: rest)).map (LexemeKind.blockComment, ·)
          <|> (blank? (c :: rest)).map (LexemeKind.blank, ·)) := by
  have missing (kind : LexemeKind) (token : kind.isSkipped = false)
      : kind.length? before (c :: rest) = none := by
    refine Option.eq_none_iff_forall_ne_some.mpr fun length found => ?_
    obtain ⟨_, _, _, same, -, known⟩ := LexemeKind.length?_front token found
    cases same
    cases noToken.symm.trans known
  have noString : string? (c :: rest) = none := missing .string rfl
  have noNumber : number? before (c :: rest) = none := missing .number rfl
  have noSign : punctuation? (c :: rest) = none := missing .punctuation rfl
  have noName : name? before (c :: rest) = none := missing .name rfl
  simp [lexeme?, noString, noNumber, noSign, noName]

/-- A run of white space is one lexeme, whatever stands before it. -/
theorem lexeme?_blank {piece after : List Char} (full : piece ≠ []) (all : ∀ c ∈ piece, isBlank c)
    (ends : ∀ c ∈ after.head?, isBlank c = false) (before : Option Char)
    : lexeme? before (piece ++ after) = some (.blank, piece.length) := by
  have run := takeWhile_run all ends
  cases piece with
  | nil => exact absurd rfl full
  | cons c others =>
      have blank : isBlank c := all c (List.mem_cons_self ..)
      have noToken : kindOf? c = none :=
        Option.eq_none_iff_forall_ne_some.mpr fun kind known =>
          Bool.false_ne_true ((not_isBlank_of_kindOf? known).symm.trans blank)
      have noSlash : c ≠ '/' := by
        rintro rfl
        revert blank
        decide
      have noLine : lineComment? (c :: (others ++ after)) = none := by
        unfold lineComment?
        split
        · simp_all
        · rfl
      have noBlock : blockComment? (c :: (others ++ after)) = none := by
        unfold blockComment?
        split
        · simp_all
        · rfl
      rw [List.cons_append] at run ⊢
      rw [lexeme?_of_kindOf? noToken, noLine, noBlock, blank?, run]
      rfl

end GrpcMock.Proto
