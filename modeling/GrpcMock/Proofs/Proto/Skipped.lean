import GrpcMock.Proofs.Proto.Lexeme

/-!
What is passed over between tokens, as a reader of the text sees it: white space as far as it goes,
and comments from where they open to where they end. These are the lexemes that are no tokens.
-/

namespace GrpcMock.Proto

open GrpcMock.Text

/-- White space as far as it goes, or one whole comment, with the text that comes after. -/
inductive Skipped : (piece after : List Char) → Prop
  | blank {piece after : List Char}
      (full : piece ≠ [])
      (all : ∀ c ∈ piece, isBlank c)
      (ends : ∀ c ∈ after.head?, isBlank c = false)
      : Skipped piece after
  | lineComment {note after : List Char}
      (sameLine : '\n' ∉ note)
      (ends : ∀ c ∈ after.head?, c = '\n')
      : Skipped ('/' :: '/' :: note) after
  | blockComment {note after : List Char}
      (stillOpen : ¬['*', '/'] <:+: note ++ ['*'])
      : Skipped ('/' :: '*' :: (note ++ ['*', '/'])) after

-----------------------------------------------------------------------------------------
-- Where comments end
-----------------------------------------------------------------------------------------

/-- The rest of a block comment ends at the first place where it closes. -/
theorem blockCommentTail?_eq_some {text : List Char} {n : Nat} (h : blockCommentTail? text = some n)
    : ∃ note after,
        text = note ++ '*' :: '/' :: after
        ∧ n = note.length + 2
        ∧ ¬['*', '/'] <:+: note ++ ['*'] := by
  fun_induction blockCommentTail? text generalizing n with
  | case1 => cases h
  | case2 after =>
      cases h
      exact ⟨[], after, rfl, rfl, by decide⟩
  | case3 c rest notClosed ih =>
      obtain ⟨m, found, rfl⟩ := Option.map_eq_some_iff.mp h
      obtain ⟨note, after, rfl, rfl, stillOpen⟩ := ih found
      refine ⟨c :: note, after, rfl, rfl, fun closed => ?_⟩
      rcases List.infix_cons_iff.mp closed with front | later
      · cases note with
        | nil =>
            obtain ⟨-, tails⟩ := List.cons_prefix_cons.mp front
            cases (List.cons_prefix_cons.mp tails).1
        | cons d others =>
            obtain ⟨rfl, tails⟩ := List.cons_prefix_cons.mp front
            obtain ⟨rfl, -⟩ := List.cons_prefix_cons.mp tails
            exact notClosed _ rfl rfl
      · exact stillOpen later

/-- A block comment ends where it is first closed. -/
theorem blockCommentTail?_of_open {note : List Char} (stillOpen : ¬['*', '/'] <:+: note ++ ['*'])
    (after : List Char)
    : blockCommentTail? (note ++ '*' :: '/' :: after) = some (note.length + 2) := by
  induction note with
  | nil => rfl
  | cons c note ih =>
      have later : ¬['*', '/'] <:+: note ++ ['*'] := fun closed =>
        stillOpen (List.infix_cons_iff.mpr (.inr closed))
      rw [List.cons_append, blockCommentTail?, ih later]
      · rfl
      · rintro rest rfl same
        refine stillOpen (List.infix_cons_iff.mpr (.inl ?_))
        cases note with
        | nil => cases same
        | cons d others =>
            cases same
            exact ⟨others ++ ['*'], rfl⟩

-----------------------------------------------------------------------------------------
-- Pieces and lexemes
-----------------------------------------------------------------------------------------

/-- A lexeme of a kind that is passed over is one of the pieces that are. -/
theorem Skipped.of_length? {kind : LexemeKind} (skipped : kind.isSkipped) {before : Option Char}
    {text : List Char} {n : Nat} (h : kind.length? before text = some n)
    : ∃ piece after, text = piece ++ after ∧ n = piece.length ∧ Skipped piece after := by
  cases kind with
  | lineComment =>
      change lineComment? text = some n at h
      unfold lineComment? at h
      split at h
      · rename_i rest
        cases h
        obtain ⟨note, after, rfl, sameLine, ends⟩ := exists_run (· != '\n') rest
        rw [takeWhile_run sameLine ends]
        refine ⟨'/' :: '/' :: note, after, rfl, rfl, .lineComment (fun newline => ?_) ?_⟩
        · exact absurd (sameLine '\n' newline) (by decide)
        · exact fun c first => by simpa using ends c first
      · cases h
  | blockComment =>
      change blockComment? text = some n at h
      unfold blockComment? at h
      split at h
      · obtain ⟨m, found, rfl⟩ := Option.map_eq_some_iff.mp h
        obtain ⟨note, after, rfl, rfl, stillOpen⟩ := blockCommentTail?_eq_some found
        refine ⟨'/' :: '*' :: (note ++ ['*', '/']), after, by simp, by simp, ?_⟩
        exact .blockComment stillOpen
      · cases h
  | blank =>
      change blank? text = some n at h
      obtain ⟨piece, after, rfl, all, ends⟩ := exists_run isBlank text
      simp only [blank?, takeWhile_run all ends] at h
      split at h
      · cases h
      · rename_i full
        cases h
        exact ⟨piece, after, rfl, rfl, .blank (List.ne_nil_of_length_pos (by omega)) all ends⟩
  | _ => cases skipped

/-- No piece that is passed over is empty. -/
theorem Skipped.ne_nil {piece after : List Char} (h : Skipped piece after) : piece ≠ [] := by
  cases h with
  | blank full => exact full
  | lineComment => exact List.cons_ne_nil _ _
  | blockComment => exact List.cons_ne_nil _ _

/-- A piece that is passed over is the lexeme there. -/
theorem Skipped.lexeme?_eq {piece after : List Char} (h : Skipped piece after)
    (before : Option Char)
    : ∃ kind, kind.isSkipped ∧ lexeme? before (piece ++ after) = some (kind, piece.length) := by
  cases h with
  | blank full all ends => exact ⟨.blank, rfl, lexeme?_blank full all ends before⟩
  | @lineComment note after sameLine ends =>
      have all : ∀ c ∈ note, c != '\n' := by
        rintro c member
        exact bne_iff_ne.mpr fun same => sameLine (same ▸ member)
      have stops : ∀ c ∈ after.head?, (c != '\n') = false := fun c first => by
        simpa using ends c first
      refine ⟨.lineComment, rfl, ?_⟩
      rw [List.cons_append, List.cons_append, lexeme?_of_kindOf? (by decide), lineComment?,
        takeWhile_run all stops]
      rfl
  | @blockComment note after stillOpen =>
      refine ⟨.blockComment, rfl, ?_⟩
      have text
          : '/' :: '*' :: (note ++ ['*', '/']) ++ after
            = '/' :: '*' :: (note ++ '*' :: '/' :: after) := by simp
      rw [text, lexeme?_of_kindOf? (by decide), blockComment?,
        blockCommentTail?_of_open stillOpen after]
      simp [lineComment?]

-----------------------------------------------------------------------------------------
-- Lexemes in their text
-----------------------------------------------------------------------------------------

/-- A word that is a token where it stands. -/
def TokenAt (before word after : List Char) : Prop :=
  ∃ kind : LexemeKind,
    kind.isSkipped = false ∧ kind.length? before.getLast? (word ++ after) = some word.length

/-- A token, white space or a comment where it stands. -/
def LexemeAt (before piece after : List Char) : Prop :=
  TokenAt before piece after ∨ Skipped piece after

/-- No token is empty. -/
theorem TokenAt.ne_nil {before word after : List Char} (h : TokenAt before word after)
    : word ≠ [] := by
  obtain ⟨kind, token, found⟩ := h
  obtain ⟨_, _, m, -, same, -⟩ := LexemeKind.length?_front token found
  exact List.ne_nil_of_length_pos (by omega)

/-- What stands as a lexeme is found as one. -/
theorem LexemeAt.lexeme?_eq {before piece after : List Char} (h : LexemeAt before piece after)
    : ∃ kind, lexeme? before.getLast? (piece ++ after) = some (kind, piece.length) := by
  rcases h with ⟨kind, token, found⟩ | skipped
  · exact ⟨kind, lexeme?_of_length? token found⟩
  · obtain ⟨kind, -, found⟩ := skipped.lexeme?_eq before.getLast?
    exact ⟨kind, found⟩

/-- What is found at the front of a text stands there, as a token or as a piece that is passed
over. -/
theorem exists_of_lexeme? {before text : List Char} {kind : LexemeKind} {n : Nat}
    (h : lexeme? before.getLast? text = some (kind, n))
    : ∃ piece after,
        text = piece ++ after
        ∧ n = piece.length
        ∧ piece ≠ []
        ∧ if kind.isSkipped then Skipped piece after else TokenAt before piece after := by
  have found := length?_of_lexeme? h
  cases skipped : kind.isSkipped with
  | true =>
      obtain ⟨piece, after, split, length, stands⟩ := Skipped.of_length? skipped found
      exact ⟨piece, after, split, length, stands.ne_nil, stands⟩
  | false =>
      have alone : (none : Option Char).any isWordChar = false := rfl
      have fits := (LexemeKind.length?_keeps skipped found alone).1
      have length := List.length_take_of_le fits
      have stands : TokenAt before (text.take n) (text.drop n) :=
        ⟨kind, skipped, by rw [List.take_append_drop, length, found]⟩
      exact ⟨_, _, (List.take_append_drop n text).symm, length.symm, stands.ne_nil, stands⟩

end GrpcMock.Proto
