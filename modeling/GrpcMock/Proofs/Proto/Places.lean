import GrpcMock.Proofs.Proto.Respacing
import GrpcMock.Proofs.Proto.Skipped
import GrpcMock.Text.Bytes
import Mathlib.Data.List.DropRight

/-!
Where the tokens of a schema text stand. Their places are counted on while the text is read, and
agree with the lines and bytes of the whole text before them; nothing of the text is left out.
-/

namespace GrpcMock

open GrpcMock.Text (byteCount)

-----------------------------------------------------------------------------------------
-- Lines and bytes
-----------------------------------------------------------------------------------------

/-- The place after a text: one more than its line breaks, and one more than the bytes since the
last of them. -/
def Position.after (text : List Char) : Position :=
  ⟨1 + text.count '\n', 1 + byteCount (text.rtakeWhile (· ≠ '\n'))⟩

/-- The bytes of two texts add up. -/
theorem byteCount_append (left right : List Char)
    : byteCount (left ++ right) = byteCount left + byteCount right := by
  simp [byteCount, Text.utf8Bytes]

/-- A character has the bytes of its encoding. -/
theorem byteCount_singleton (c : Char) : byteCount [c] = c.utf8Size := by
  simp [byteCount, Text.utf8Bytes]

/-- A text that is not empty has at least one byte. -/
theorem byteCount_pos {text : List Char} (full : text ≠ []) : 0 < byteCount text := by
  cases text with
  | nil => exact absurd rfl full
  | cons c rest =>
      have front : byteCount (c :: rest) = byteCount [c] + byteCount rest :=
        byteCount_append [c] rest
      have := byteCount_singleton c ▸ c.utf8Size_pos
      omega

/-- The bytes before a place tell it, by induction on what comes before it. -/
theorem append_inj_of_byteCount {left right after rest : List Char}
    (same : left ++ after = right ++ rest) (bytes : byteCount left = byteCount right)
    : left = right ∧ after = rest := by
  induction left generalizing right with
  | nil =>
      cases right with
      | nil => exact ⟨rfl, same⟩
      | cons c others =>
          have := byteCount_pos (List.cons_ne_nil c others)
          exact absurd bytes (Nat.ne_of_lt this)
  | cons c others ih =>
      cases right with
      | nil =>
          have := byteCount_pos (List.cons_ne_nil c others)
          exact absurd bytes.symm (Nat.ne_of_lt this)
      | cons d more =>
          obtain ⟨rfl, tails⟩ := List.cons.inj same
          have left := byteCount_append [c] others
          have right := byteCount_append [c] more
          rw [List.singleton_append] at left right
          obtain ⟨rfl, rfl⟩ := ih tails (by omega)
          exact ⟨rfl, rfl⟩

/-- One character further. -/
theorem Position.after_concat (text : List Char) (c : Char)
    : Position.after (text ++ [c]) = (Position.after text).step c := by
  unfold Position.after Position.step
  by_cases newline : c = '\n'
  · subst newline
    rw [if_pos rfl, List.rtakeWhile_concat_neg _ _ _ (by simp), List.count_append]
    rfl
  · rw [if_neg newline, List.rtakeWhile_concat_pos _ _ _ (by simpa using newline),
      List.count_append, List.count_singleton, byteCount_append, byteCount_singleton]
    simp [newline, Nat.add_assoc]

/-- Going on from a place counts like going from the start, by induction from the end of the text.
-/
theorem Position.advance_after (text more : List Char)
    : (Position.after text).advance more = .after (text ++ more) := by
  induction more using List.reverseRecOn with
  | nil => rw [List.append_nil, advance, List.foldl_nil]
  | append_singleton more c ih =>
      rw [← List.append_assoc, after_concat, ← ih, advance, List.foldl_concat]
      rfl

namespace Proto

-----------------------------------------------------------------------------------------
-- Tokens and gaps
-----------------------------------------------------------------------------------------

/-- White space and whole comments, one after the other, with the text that comes after. -/
inductive Gap : (gap after : List Char) → Prop
  | nil {after : List Char} : Gap [] after
  | cons {piece gap after : List Char}
      (first : Skipped piece (gap ++ after))
      (rest : Gap gap after)
      : Gap (piece ++ gap) after

/-- Nothing but white space and comments stands between two offsets of a text. -/
def GapBetween (text : List Char) (start stop : Nat) : Prop :=
  ∃ before gap after,
    text = before ++ gap ++ after
    ∧ byteCount before = start
    ∧ byteCount (before ++ gap) = stop
    ∧ Gap gap after

/-- A token stands in a text at an offset, and tells the line and column of it. Only the token at
the end of the text may be empty. -/
def Token.StandsAt (text : List Char) (token : Token) (offset : Nat) : Prop :=
  ∃ before after,
    text = before ++ token.text.toList ++ after
    ∧ byteCount before = offset
    ∧ token.position = .after before
    ∧ (token.text = "" ∧ after = [] ∨ TokenAt before token.text.toList after)

/-- The offset after a token. -/
def Token.stop (token : Token) (offset : Nat) : Nat :=
  offset + byteCount token.text.toList

/-- Tokens stand in a text at their offsets. From the start to the first of them, between one and
the next, and after the last to the end of the text there are gaps only. An empty token stands at
the end and nowhere else. -/
structure Standing (text : List Char) (start : Nat) (tokens : List Token) (offsets : List Nat)
    : Prop where
  stand : List.Forall₂ (Token.StandsAt text) tokens offsets
  ascending : offsets.Pairwise (· < ·)
  gaps
    : List.Forall₂ (GapBetween text)
        (start :: List.zipWith Token.stop tokens offsets)
        (offsets ++ [byteCount text])
  final : tokens.getLast? = some ⟨"", .after text⟩
  atEnd : offsets.getLast? = some (byteCount text)
  full : ∀ token ∈ tokens.dropLast, token.text ≠ ""

/-- Between a place and itself there is a gap. -/
theorem GapBetween.nil {text before after : List Char} (split : text = before ++ after)
    : GapBetween text (byteCount before) (byteCount before) :=
  ⟨before, [], after, by rw [split, List.append_nil], rfl, by rw [List.append_nil], .nil⟩

/-- A gap may begin with one more piece that is passed over. -/
theorem GapBetween.cons {text before piece rest : List Char} {stop : Nat}
    (split : text = before ++ (piece ++ rest)) (skipped : Skipped piece rest)
    (h : GapBetween text (byteCount (before ++ piece)) stop)
    : GapBetween text (byteCount before) stop := by
  obtain ⟨further, gap, after, whole, start, ends, gaps⟩ := h
  have same : (before ++ piece) ++ rest = further ++ (gap ++ after) := by
    rw [List.append_assoc, ← split, whole, List.append_assoc]
  obtain ⟨rfl, rfl⟩ := append_inj_of_byteCount same start.symm
  refine ⟨before, piece ++ gap, after, ?_, rfl, ?_, .cons skipped gaps⟩
  · rw [whole, List.append_assoc before piece gap]
  · rw [← ends, List.append_assoc]

/-- A gap does not end before it begins. -/
theorem GapBetween.le {text : List Char} {start stop : Nat} (h : GapBetween text start stop)
    : start ≤ stop := by
  obtain ⟨before, gap, -, -, rfl, rfl, -⟩ := h
  exact byteCount_append before gap ▸ Nat.le_add_right ..

/-- At the end of a text its last token stands. -/
theorem Standing.nil (text : List Char)
    : Standing text (byteCount text) [⟨"", .after text⟩] [byteCount text] where
  stand := .cons ⟨text, [], by simp, rfl, rfl, .inl ⟨rfl, rfl⟩⟩ .nil
  ascending := List.pairwise_singleton _ _
  gaps :=
    have gap : GapBetween text (byteCount text) (byteCount text) :=
      .nil (List.append_nil text).symm
    .cons gap (.cons gap .nil)
  final := rfl
  atEnd := rfl
  full := fun _ member => nomatch member

/-- No token stands before the start. -/
theorem Standing.start_le {text : List Char} {start : Nat} {tokens : List Token}
    {offsets : List Nat} (h : Standing text start tokens offsets)
    : ∀ offset ∈ offsets, start ≤ offset := by
  obtain ⟨-, ascending, gaps, -, atEnd, -⟩ := h
  cases offsets with
  | nil => cases atEnd
  | cons first others =>
      have below : start ≤ first := (List.forall₂_cons.mp gaps).1.le
      rintro offset (_ | ⟨_, later⟩)
      · exact below
      · exact Nat.le_trans below (Nat.le_of_lt (List.rel_of_pairwise_cons ascending later))

/-- White space or a comment goes before the first token. -/
theorem Standing.skip {text before piece rest : List Char} {tokens : List Token}
    {offsets : List Nat} (split : text = before ++ (piece ++ rest)) (skipped : Skipped piece rest)
    (h : Standing text (byteCount (before ++ piece)) tokens offsets)
    : Standing text (byteCount before) tokens offsets where
  stand := h.stand
  ascending := h.ascending
  gaps := by
    cases offsets with
    | nil => cases h.atEnd
    | cons first others =>
        obtain ⟨gap, gaps⟩ := List.forall₂_cons.mp h.gaps
        exact .cons (.cons split skipped gap) gaps
  final := h.final
  atEnd := h.atEnd
  full := h.full

/-- A token goes before the tokens of the rest. -/
theorem Standing.token {text before word rest : List Char} {tokens : List Token}
    {offsets : List Nat} (split : text = before ++ (word ++ rest))
    (stands : TokenAt before word rest)
    (h : Standing text (byteCount (before ++ word)) tokens offsets)
    : Standing text (byteCount before) (⟨String.ofList word, .after before⟩ :: tokens)
        (byteCount before :: offsets) := by
  have stop
      : Token.stop ⟨String.ofList word, .after before⟩ (byteCount before)
        = byteCount (before ++ word) := by
    rw [Token.stop, String.toList_ofList, byteCount_append]
  have longer : byteCount before < byteCount (before ++ word) :=
    byteCount_append before word ▸ Nat.lt_add_of_pos_right (byteCount_pos stands.ne_nil)
  refine ⟨.cons ⟨before, rest, ?_, rfl, rfl, .inr ?_⟩ h.stand, ?_, ?_, ?_, ?_, ?_⟩
  · rw [split, String.toList_ofList, List.append_assoc]
  · rwa [String.toList_ofList]
  · exact .cons (fun offset member => Nat.lt_of_lt_of_le longer (h.start_le offset member))
      h.ascending
  · rw [List.zipWith_cons_cons, stop]
    exact .cons (.nil split) h.gaps
  · rw [List.getLast?_cons, h.final]
    rfl
  · rw [List.getLast?_cons, h.atEnd]
    rfl
  · cases tokens with
    | nil => cases h.final
    | cons next others =>
        rw [List.dropLast_cons_cons]
        refine List.forall_mem_cons.mpr ⟨fun empty => stands.ne_nil ?_, h.full⟩
        exact String.ofList_eq_empty_iff.mp empty

-----------------------------------------------------------------------------------------
-- How far a text is covered
-----------------------------------------------------------------------------------------

/-- Tokens, white space and comments, one after the other, cover a text up to where only `after` is
left of it. -/
inductive Covered : (before text after : List Char) → Prop
  | stop {before text : List Char} : Covered before text text
  | step {before piece text after : List Char}
      (first : LexemeAt before piece text)
      (rest : Covered (before ++ piece) text after)
      : Covered before (piece ++ text) after

/-- A text can be covered up to where something is left of it, and however it is covered, at least
that much is left. -/
structure FirstUncovered (before text left : List Char) : Prop where
  covered : Covered before text left
  nonempty : left ≠ []
  first : ∀ after, Covered before text after → left <:+ after

/-- Where no lexeme begins, nothing is covered from there. -/
theorem FirstUncovered.stuck {before text : List Char} (nonempty : text ≠ [])
    (missing : lexeme? before.getLast? text = none)
    : FirstUncovered before text text where
  covered := .stop
  nonempty := nonempty
  first := by
    intro after covered
    cases covered with
    | stop => exact List.suffix_refl _
    | step first =>
        obtain ⟨kind, found⟩ := first.lexeme?_eq
        cases missing.symm.trans found

/-- The lexeme at the front of a text is the only one there. -/
theorem FirstUncovered.step {before piece rest left : List Char}
    (lexeme : LexemeAt before piece rest) (h : FirstUncovered (before ++ piece) rest left)
    : FirstUncovered before (piece ++ rest) left where
  covered := .step lexeme h.covered
  nonempty := h.nonempty
  first := by
    intro after covered
    generalize whole : piece ++ rest = text at covered
    cases covered with
    | stop =>
        have : left <:+ rest := h.first rest .stop
        exact whole ▸ this.trans (List.suffix_append ..)
    | @step _ other others _ first covered =>
        obtain ⟨kind, found⟩ := lexeme.lexeme?_eq
        obtain ⟨kindToo, foundToo⟩ := first.lexeme?_eq
        rw [whole] at found
        obtain ⟨-, lengths⟩ := Prod.mk.inj (Option.some.inj (found.symm.trans foundToo))
        obtain ⟨rfl, rfl⟩ := List.append_inj whole lengths
        exact h.first after covered

-----------------------------------------------------------------------------------------
-- Reading a text
-----------------------------------------------------------------------------------------

/-- What the rest of a text is read to, after what came before. -/
def Places (before text : List Char) : Except Fault (List Token) → Prop
  | .ok tokens => ∃ offsets, Standing (before ++ text) (byteCount before) tokens offsets
  | .error fault =>
      ∃ covered left,
        text = covered ++ left
        ∧ FirstUncovered before text left
        ∧ fault.position = .after (before ++ covered)

/-- One lexeme further, a piece that is passed over or a token. -/
theorem Places.step {before piece after : List Char} {kind : LexemeKind}
    (stands : if kind.isSkipped then Skipped piece after else TokenAt before piece after)
    {outcome : Except Fault (List Token)} (h : Places (before ++ piece) after outcome)
    : Places before (piece ++ after)
        (outcome.map fun tokens =>
          if kind.isSkipped then tokens else ⟨String.ofList piece, .after before⟩ :: tokens) := by
  cases outcome with
  | error fault =>
      obtain ⟨covered, left, rfl, uncovered, place⟩ := h
      have lexeme : LexemeAt before piece (covered ++ left) := by
        split at stands
        · exact .inr stands
        · exact .inl stands
      rw [List.append_assoc] at place
      exact ⟨piece ++ covered, left, (List.append_assoc ..).symm, .step lexeme uncovered, place⟩
  | ok tokens =>
      obtain ⟨offsets, standing⟩ := h
      rw [List.append_assoc] at standing
      cases skipped : kind.isSkipped with
      | true =>
          rw [skipped] at stands
          exact ⟨offsets, .skip rfl stands standing⟩
      | false =>
          rw [skipped] at stands
          exact ⟨byteCount before :: offsets, .token rfl stands standing⟩

/-- One lexeme after the other, by induction on the length of the text that is left. -/
theorem tokensFrom_places (before text : List Char)
    : Places before text (tokensFrom before.getLast? (.after before) text) := by
  induction length : text.length using Nat.strongRecOn generalizing before text with
  | ind count ih =>
      cases text with
      | nil =>
          have standing := Standing.nil before
          rw [tokensFrom]
          exact ⟨[byteCount before], by rwa [List.append_nil]⟩
      | cons c rest =>
          cases found : lexeme? before.getLast? (c :: rest) with
          | none =>
              rw [tokensFrom, found]
              exact ⟨[], c :: rest, rfl, .stuck (List.cons_ne_nil c rest) found,
                by rw [List.append_nil]⟩
          | some lexeme =>
              obtain ⟨kind, n⟩ := lexeme
              obtain ⟨piece, after, split, rfl, nonempty, stands⟩ := exists_of_lexeme? found
              have last : piece.getLast? = (before ++ piece).getLast? := by
                rw [List.getLast?_append, List.getLast?_eq_some_getLast nonempty]
                rfl
              have shorter : after.length < count := by
                have := List.length_pos_iff.mpr nonempty
                rw [← length, split, List.length_append]
                omega
              rw [split] at found ⊢
              rw [tokensFrom_lexeme nonempty found, Position.advance_after, last]
              exact .step stands (ih after.length shorter (before ++ piece) after rfl)

/-- The tokens of a text stand in it in their order, with white space and comments around them and
nothing else, and tell their lines and columns. A text that is not tokens throughout fails with the
line and column of the first thing in it that is no token, white space or comment. -/
theorem tokenize_places (text : String)
    : match tokenize text with
      | .ok tokens => ∃ offsets, Standing text.toList 0 tokens offsets
      | .error fault =>
          ∃ covered left,
            text.toList = covered ++ left
            ∧ FirstUncovered [] text.toList left
            ∧ fault.position = .after covered :=
  tokensFrom_places [] text.toList

/-- The column counts bytes, of which the letter in the comment has two. -/
example
    : (tokenize "// head\n/* block\n é */ M").toOption
      = some [⟨"M", ⟨3, 8⟩⟩, ⟨"", ⟨3, 9⟩⟩] := by
  decide +kernel

end Proto

end GrpcMock
