import GrpcMock.Outcome
import GrpcMock.Proofs.Base64
import GrpcMock.Proofs.Text.Ascii

/-!
Base64 text that is read is the one text that writes its bytes. Padding stands only where a group
has two symbols already and the last group is full, so it is the padding that is written; and as no
bit is left over, the symbols are those of the bytes.
-/

namespace GrpcMock.Base64

-----------------------------------------------------------------------------------------
-- Symbols
-----------------------------------------------------------------------------------------

section Symbols

variable {alphabet : Alphabet}

/-- A symbol is the one that its value is written with. -/
theorem Alphabet.symbol_of_value? {b : UInt8} {value : Nat} (h : alphabet.value? b = some value)
    : value < 64 ∧ alphabet.symbol value = b := by
  have restored {n : Nat} (same : n = b.toNat) : UInt8.ofNat n = b := by
    rw [same, UInt8.ofNat_toNat]
  simp only [value?, UInt8.le_iff_toNat_le, UInt8.reduceToNat] at h
  unfold symbol
  split at h
  · obtain rfl := Option.some.inj h
    refine ⟨by omega, ?_⟩
    rw [if_pos (by omega)]
    exact restored (by omega)
  split at h
  · obtain rfl := Option.some.inj h
    refine ⟨by omega, ?_⟩
    rw [if_neg (by omega), if_pos (by omega)]
    exact restored (by omega)
  split at h
  · obtain rfl := Option.some.inj h
    refine ⟨by omega, ?_⟩
    rw [if_neg (by omega), if_neg (by omega), if_pos (by omega)]
    exact restored (by omega)
  split at h
  · rename_i same
    obtain rfl := Option.some.inj h
    exact ⟨by decide, same.symm⟩
  split at h
  · rename_i same
    obtain rfl := Option.some.inj h
    exact ⟨by decide, same.symm⟩
  · cases h

/-- Symbols that are read are those of their values. -/
theorem eq_map_of_symbolValues {offset : Nat} {text : List UInt8} {values : List Nat}
    (h : symbolValues alphabet offset text = .ok values)
    : (∀ value ∈ values, value < 64) ∧ text = values.map alphabet.symbol := by
  induction text generalizing offset values with
  | nil =>
      cases h
      exact ⟨nofun, rfl⟩
  | cons first rest ih =>
      rw [symbolValues] at h
      split at h
      · cases h
      · rename_i value found
        obtain ⟨others, read, rfl⟩ := map_eq_ok.mp h
        obtain ⟨small, rfl⟩ := ih read
        obtain ⟨fits, written⟩ := Alphabet.symbol_of_value? found
        exact ⟨List.forall_mem_cons.mpr ⟨fits, small⟩, by rw [List.map_cons, written]⟩

/-- After padding there is only padding, and each of it stands in the second half of a group. -/
theorem eq_replicate_of_lastValues {start index first seen count : Nat} {text : List UInt8}
    {values : List Nat}
    (h : lastValues alphabet start index ⟨some first, seen⟩ text = .ok (values, count))
    : values = [] ∧ ∃ more, count = seen + more ∧ text = List.replicate more pad
        ∧ ∀ earlier < more, 2 ≤ (index + earlier) % 4 := by
  induction text generalizing index seen with
  | nil =>
      cases h
      exact ⟨rfl, 0, rfl, rfl, nofun⟩
  | cons b rest ih =>
      rw [lastValues] at h
      split at h
      · rename_i padding
        split at h
        · cases h
        · rename_i late
          obtain ⟨none, more, total, rfl, later⟩ := ih h
          dsimp only at total
          refine ⟨none, more + 1, by omega, by rw [padding, List.replicate_succ], ?_⟩
          intro earlier within
          cases earlier with
          | zero => omega
          | succ before =>
              have := later before (by omega)
              omega
      · cases h

/-- The last chunk is symbols with padding behind them, which begins in the second half of a group
and ends with it. -/
theorem eq_append_of_lastValues {start index count : Nat} {text : List UInt8} {values : List Nat}
    (h : lastValues alphabet start index ⟨none, 0⟩ text = .ok (values, count))
    : (∀ value ∈ values, value < 64)
      ∧ text = values.map alphabet.symbol ++ List.replicate count pad
      ∧ count < 3 := by
  induction text generalizing index values with
  | nil =>
      cases h
      exact ⟨nofun, rfl, by decide⟩
  | cons b rest ih =>
      rw [lastValues] at h
      split at h
      · rename_i padding
        split at h
        · cases h
        · rename_i late
          obtain ⟨rfl, more, rfl, rfl, later⟩ := eq_replicate_of_lastValues h
          dsimp only
          refine ⟨nofun, ?_, ?_⟩
          · rw [padding, List.map_nil, List.nil_append, Nat.add_comm, List.replicate_succ]
          · -- of three in a row one stands in the first half of a group
            by_contra long
            have second := later 0 (by omega)
            have third := later 1 (by omega)
            clear h
            omega
      · dsimp only at h
        split at h
        · cases h
        · rename_i value found
          obtain ⟨⟨others, total⟩, read, same⟩ := map_eq_ok.mp h
          cases same
          obtain ⟨small, rfl, few⟩ := ih read
          obtain ⟨fits, written⟩ := Alphabet.symbol_of_value? found
          refine ⟨List.forall_mem_cons.mpr ⟨fits, small⟩, ?_, few⟩
          rw [List.map_cons, written, List.cons_append]

end Symbols

/-- Values that leave no bit over are those of the symbols of the bytes that they hold. -/
theorem sextets_regroup {values : List Nat} (small : ∀ value ∈ values, value < 64)
    (whole : values.length % 4 ≠ 1) (left : (regroup values).2 = 0)
    : sextets (regroup values).1 = values := by
  have byte {m : Nat} (fits : m < 256) : (UInt8.ofNat m).toNat = m :=
    UInt8.toNat_ofNat_of_lt' fits
  fun_induction regroup values with
  | case1 a b c d rest n held spare read group ih =>
      simp only [List.forall_mem_cons] at small
      obtain ⟨ha, hb, hc, hd, others⟩ := small
      have fewer : rest.length % 4 ≠ 1 := by
        simp only [List.length_cons] at whole
        omega
      have back : sextets held = rest := by
        rw [read] at ih
        exact ih others fewer left
      have hn : n = ((a * 64 + b) * 64 + c) * 64 + d := rfl
      have joined : (n / 65536 * 256 + n / 256 % 256) * 256 + n % 256 = n := by omega
      have first : n / 262144 = a := by omega
      have second : n / 4096 % 64 = b := by omega
      have third : n / 64 % 64 = c := by omega
      have fourth : n % 64 = d := by omega
      simp only [group, List.cons_append, List.nil_append, sextets,
        byte (by omega : n / 65536 < 256), byte (by omega : n / 256 % 256 < 256),
        byte (by omega : n % 256 < 256), joined, first, second, third, fourth, back]
  | case2 a b c n =>
      simp only [List.forall_mem_cons] at small
      obtain ⟨ha, hb, hc, -⟩ := small
      have hn : n = (a * 64 + b) * 64 + c := rfl
      have joined : n / 1024 * 256 + n / 4 % 256 = n / 4 := by omega
      have first : n / 4 / 1024 = a := by omega
      have second : n / 4 / 16 % 64 = b := by omega
      have third : n / 4 % 16 * 4 = c := by omega
      simp only [sextets, byte (by omega : n / 1024 < 256), byte (by omega : n / 4 % 256 < 256),
        joined, first, second, third]
  | case3 a b n =>
      simp only [List.forall_mem_cons] at small
      obtain ⟨ha, hb, -⟩ := small
      have hn : n = a * 64 + b := rfl
      have first : n / 16 / 4 = a := by omega
      have second : n / 16 % 4 * 16 = b := by omega
      simp only [sextets, byte (by omega : n / 16 < 256), first, second]
  | case4 values four three two =>
      match values with
      | [] => rfl
      | [_] => exact absurd rfl whole
      | [_, _] => exact (two _ _ rfl).elim
      | [_, _, _] => exact (three _ _ _ rfl).elim
      | _ :: _ :: _ :: _ :: _ => exact (four _ _ _ _ _ rfl).elim

-----------------------------------------------------------------------------------------
-- Texts
-----------------------------------------------------------------------------------------

section Texts

variable {alphabet : Alphabet} {text bytes : List UInt8}

/-- A text that is read has symbols only at its front, and a last chunk that fills up the last
group; no bit is left over. -/
theorem chunks_of_decode (h : decode alphabet text = .ok bytes)
    : ∃ start whole tail count,
        start % 8 = 0
        ∧ start ≤ text.length
        ∧ symbolValues alphabet 0 (text.take start) = .ok whole
        ∧ lastValues alphabet start 0 ⟨none, 0⟩ (text.drop start) = .ok (tail, count)
        ∧ (tail.length + count) % 4 = 0
        ∧ regroup (whole ++ tail) = (bytes, 0) := by
  unfold decode at h
  dsimp only at h
  split at h
  · split at h <;> cases h
  simp only [bind_eq_ok] at h
  obtain ⟨whole, front, ⟨tail, count⟩, back, h⟩ := h
  split at h
  · cases h
  rename_i fills
  split at h
  · cases h
  rename_i left
  refine ⟨_, whole, tail, count, Nat.mul_mod_right .., by omega, front, back,
    not_not.mp fills, Prod.ext (pure_eq_ok.mp h) (not_not.mp left)⟩

/-- A text that is read is the one that writes the bytes. -/
theorem eq_encode_of_decode (h : decode alphabet text = .ok bytes)
    : text = encode alphabet bytes := by
  obtain ⟨start, whole, tail, count, aligned, within, front, back, fills, regrouped⟩ :=
    chunks_of_decode h
  obtain ⟨wholeSmall, frontWritten⟩ := eq_map_of_symbolValues front
  obtain ⟨tailSmall, backWritten, few⟩ := eq_append_of_lastValues back
  have small : ∀ value ∈ whole ++ tail, value < 64 :=
    List.forall_mem_append.mpr ⟨wholeSmall, tailSmall⟩
  have size : (whole ++ tail).length = start + tail.length := by
    have taken := congrArg List.length frontWritten
    rw [List.length_take_of_le within, List.length_map] at taken
    rw [List.length_append, taken]
  have held : sextets bytes = whole ++ tail := by
    have back := sextets_regroup small (by omega) (congrArg Prod.snd regrouped)
    rwa [regrouped] at back
  -- fewer than three symbols fill up the last group, so there is one number of them that does
  have padded : padCount bytes = count := by
    have filled := sextets_length bytes
    have fewer := padCount_lt bytes
    rw [held] at filled
    omega
  calc
    text = text.take start ++ text.drop start := (List.take_append_drop start text).symm
    _ = (whole ++ tail).map alphabet.symbol ++ List.replicate count pad := by
        rw [frontWritten, backWritten, List.map_append, List.append_assoc]
    _ = encode alphabet bytes := by rw [encode_eq, held, padded]

/-- A text is read as some bytes exactly if it is what is written for them. -/
theorem decode_eq_ok_iff (distinct : alphabet.Distinct)
    : decode alphabet text = .ok bytes ↔ text = encode alphabet bytes :=
  ⟨eq_encode_of_decode, fun written => written ▸ decode_encode distinct bytes⟩

/-- The symbols of a text are all that is in it but padding. -/
theorem filter_encode (distinct : alphabet.Distinct)
    : (encode alphabet bytes).filter (· ≠ pad) = (sextets bytes).map alphabet.symbol := by
  have symbols : ∀ b ∈ (sextets bytes).map alphabet.symbol, b ≠ pad := by
    intro b member
    obtain ⟨value, inside, rfl⟩ := List.mem_map.mp member
    exact (distinct value (sextets_lt bytes value inside)).2
  rw [encode_eq, List.filter_append, List.filter_replicate_of_neg (by simp), List.append_nil,
    List.filter_eq_self.mpr (by simpa using symbols)]

end Texts

-----------------------------------------------------------------------------------------
-- Two alphabets
-----------------------------------------------------------------------------------------

/-- A symbol of both alphabets stands for the same value in both. -/
def Alphabet.Agrees (left right : Alphabet) : Prop :=
  ∀ value < 64, ∀ other ∈ right.value? (left.symbol value), other = value

/-- One of the two alphabets that texts are written in. -/
def Alphabet.Known (alphabet : Alphabet) : Prop :=
  alphabet = .standard ∨ alphabet = .urlSafe

/-- A known alphabet has a symbol of its own for each value. -/
theorem Alphabet.Known.distinct {alphabet : Alphabet} (known : alphabet.Known)
    : alphabet.Distinct := by
  rcases known with rfl | rfl
  · exact standard_distinct
  · unfold Alphabet.Distinct
    decide

/-- A symbol of two known alphabets stands for the same value in both. -/
theorem Alphabet.Known.agrees {left right : Alphabet} (hl : left.Known) (hr : right.Known)
    : left.Agrees right := by
  rcases hl with rfl | rfl <;> rcases hr with rfl | rfl <;>
    · unfold Alphabet.Agrees
      decide

/-- The symbols of a known alphabet are ASCII characters. -/
theorem Alphabet.Known.small {alphabet : Alphabet} (known : alphabet.Known)
    : ∀ value < 64, (alphabet.symbol value).toNat < 128 := by
  rcases known with rfl | rfl <;> decide

section Two

variable {left right : Alphabet} {bytes others : List UInt8}

/-- Values are known by their symbols, even in different alphabets. -/
theorem eq_of_map_symbol (agrees : left.Agrees right) (distinct : right.Distinct)
    {values partners : List Nat} (small : ∀ value ∈ values, value < 64)
    (smallToo : ∀ value ∈ partners, value < 64)
    (same : values.map left.symbol = partners.map right.symbol)
    : values = partners := by
  induction values generalizing partners with
  | nil => exact (List.map_eq_nil_iff.mp same.symm).symm
  | cons first rest ih =>
      cases partners with
      | nil => cases same
      | cons partner more =>
          rw [List.forall_mem_cons] at small smallToo
          rw [List.map_cons, List.map_cons, List.cons.injEq] at same
          have value := (distinct partner smallToo.1).1
          rw [← same.1] at value
          rw [agrees first small.1 partner value, ih small.2 smallToo.2 same.2]

/-- Whatever alphabets they are written in, different bytes are written differently. -/
theorem encode_inj (hl : left.Known) (hr : right.Known)
    (same : encode left bytes = encode right others)
    : bytes = others := by
  have symbols := congrArg (List.filter (· ≠ pad)) same
  rw [filter_encode hl.distinct, filter_encode hr.distinct] at symbols
  have values := eq_of_map_symbol (hl.agrees hr) hr.distinct (sextets_lt bytes)
    (sextets_lt others) symbols
  have read := regroup_sextets bytes
  rw [values, regroup_sextets] at read
  exact (Prod.mk.inj read).1.symm

/-- A text is read just if it is written in one alphabet throughout. -/
theorem decodeEither_eq_ok_iff {text : List UInt8}
    : decodeEither text = .ok bytes
      ↔ text = encode .standard bytes ∨ text = encode .urlSafe bytes := by
  have standard : Alphabet.standard.Known := .inl rfl
  have urlSafe : Alphabet.urlSafe.Known := .inr rfl
  rw [decodeEither]
  cases read : decode .standard text with
  | ok others =>
      have written := eq_encode_of_decode read
      simp only [Except.ok.injEq]
      constructor
      · rintro rfl
        exact .inl written
      · rintro (same | same)
        · exact encode_inj standard standard (written.symm.trans same)
        · exact encode_inj standard urlSafe (written.symm.trans same)
  | error fault =>
      rw [decode_eq_ok_iff urlSafe.distinct]
      refine (or_iff_right ?_).symm
      rintro rfl
      rw [decode_encode standard.distinct] at read
      cases read

/-- A text has no symbols but those of an alphabet. -/
def Alphabet.Covers (alphabet : Alphabet) (text : List UInt8) : Prop :=
  ∀ b ∈ text, b = pad ∨ (alphabet.value? b).isSome

/-- What has the symbols of one alphabet only is written alike in both. -/
theorem encode_eq_of_covers (hl : left.Known) (hr : right.Known)
    (covers : left.Covers (encode right bytes))
    : encode right bytes = encode left bytes := by
  have each : ∀ value ∈ sextets bytes, right.symbol value = left.symbol value := by
    intro value inside
    have small := sextets_lt bytes value inside
    have member : right.symbol value ∈ encode right bytes := by
      rw [encode_eq]
      exact List.mem_append_left _ (List.mem_map_of_mem inside)
    have covered := (covers _ member).resolve_left (hr.distinct value small).2
    obtain ⟨other, read⟩ := Option.isSome_iff_exists.mp covered
    obtain rfl := hr.agrees hl value small other read
    exact (Alphabet.symbol_of_value? read).2.symm
  rw [encode_eq, encode_eq, List.map_congr_left each]

end Two

-----------------------------------------------------------------------------------------
-- Characters
-----------------------------------------------------------------------------------------

/-- The text that bytes are written as in an alphabet. -/
def written (alphabet : Alphabet) (bytes : List UInt8) : String :=
  String.ofList ((encode alphabet bytes).map fun byte => Char.ofNat byte.toNat)

section Characters

variable {alphabet : Alphabet}

/-- The bytes of a written text are those of its encoding. -/
theorem utf8Bytes_written (known : alphabet.Known) (bytes : List UInt8)
    : Text.utf8Bytes (written alphabet bytes).toList = encode alphabet bytes := by
  rw [written, String.toList_ofList, Text.utf8Bytes_chars]
  intro byte member
  rw [encode_eq] at member
  rcases List.mem_append.mp member with symbol | padding
  · obtain ⟨value, inside, rfl⟩ := List.mem_map.mp symbol
    exact known.small value (sextets_lt bytes value inside)
  · rw [List.eq_of_mem_replicate padding]
    decide

/-- A text has the bytes of an encoding exactly if it is the one that is written. -/
theorem utf8Bytes_eq_encode_iff (known : alphabet.Known) {text : String} {bytes : List UInt8}
    : Text.utf8Bytes text.toList = encode alphabet bytes ↔ text = written alphabet bytes := by
  rw [← utf8Bytes_written known, Text.utf8Bytes_injective.eq_iff, String.toList_inj]

end Characters

end GrpcMock.Base64
