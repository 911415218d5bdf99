import GrpcMock.Base64
import Mathlib.Data.List.Basic

/-!
Base64 text is read back. A text that is written is a run of symbols with padding behind it that
fills up the last group of four, so its last chunk is the only one that padding can stand in.
-/

namespace GrpcMock.Base64

/-- The values of the symbols that bytes are written with. -/
def sextets : List UInt8 → List Nat
  | [] => []
  | [a] => [a.toNat / 4, a.toNat % 4 * 16]
  | [a, b] =>
      let n := a.toNat * 256 + b.toNat
      [n / 1024, n / 16 % 64, n % 16 * 4]
  | a :: b :: c :: rest =>
      let n := (a.toNat * 256 + b.toNat) * 256 + c.toNat
      n / 262144 :: n / 4096 % 64 :: n / 64 % 64 :: n % 64 :: sextets rest

/-- The number of padding symbols that fill up the last group. -/
def padCount (bytes : List UInt8) : Nat :=
  (3 - bytes.length % 3) % 3

/-- At most two symbols are missing. -/
theorem padCount_lt (bytes : List UInt8) : padCount bytes < 3 :=
  Nat.mod_lt _ (by decide)

/-- Three bytes more change nothing about that. -/
theorem padCount_triple (a b c : UInt8) (rest : List UInt8)
    : padCount (a :: b :: c :: rest) = padCount rest := by
  simp only [padCount, List.length_cons]
  omega

/-- Written bytes are their symbols with padding behind them. -/
theorem encode_eq (alphabet : Alphabet) (bytes : List UInt8)
    : encode alphabet bytes
      = (sextets bytes).map alphabet.symbol ++ List.replicate (padCount bytes) pad := by
  fun_induction sextets bytes with
  | case1 => rfl
  | case2 => rfl
  | case3 => rfl
  | case4 a b c rest n ih =>
      rw [encode, ih, padCount_triple]
      rfl

/-- Values of six bits are less than 64. -/
theorem sextets_lt (bytes : List UInt8) : ∀ value ∈ sextets bytes, value < 64 := by
  fun_induction sextets bytes with
  | case1 => simp
  | case2 a =>
      have := a.toNat_lt
      simp only [List.forall_mem_cons]
      refine ⟨by omega, by omega, by simp⟩
  | case3 a b n =>
      have := a.toNat_lt
      have := b.toNat_lt
      simp only [List.forall_mem_cons]
      refine ⟨by omega, by omega, by omega, by simp⟩
  | case4 a b c rest n ih =>
      have := a.toNat_lt
      have := b.toNat_lt
      have := c.toNat_lt
      simp only [List.forall_mem_cons]
      refine ⟨by omega, by omega, by omega, by omega, ih⟩

/-- With padding, the number of symbols is divisible by four. -/
theorem sextets_length (bytes : List UInt8)
    : ((sextets bytes).length + padCount bytes) % 4 = 0 := by
  fun_induction sextets bytes with
  | case1 => rfl
  | case2 => simp [padCount]
  | case3 => simp [padCount]
  | case4 a b c rest n ih =>
      rw [padCount_triple]
      simp only [List.length_cons]
      omega

/-- The values of the symbols hold the bytes, and no bit is left over. -/
theorem regroup_sextets (bytes : List UInt8) : regroup (sextets bytes) = (bytes, 0) := by
  fun_induction sextets bytes with
  | case1 => rfl
  | case2 a =>
      have := a.toNat_lt
      have whole : (a.toNat / 4 * 64 + a.toNat % 4 * 16) / 16 = a.toNat := by omega
      have left : (a.toNat / 4 * 64 + a.toNat % 4 * 16) % 16 = 0 := by omega
      simp only [regroup, whole, left, UInt8.ofNat_toNat]
  | case3 a b n =>
      have hn : n = a.toNat * 256 + b.toNat := rfl
      have := a.toNat_lt
      have := b.toNat_lt
      have joined : (n / 1024 * 64 + n / 16 % 64) * 64 + n % 16 * 4 = 4 * n := by omega
      have first : 4 * n / 1024 = a.toNat := by omega
      have second : 4 * n / 4 % 256 = b.toNat := by omega
      have left : 4 * n % 4 = 0 := by omega
      simp only [regroup, joined, first, second, left, UInt8.ofNat_toNat]
  | case4 a b c rest n ih =>
      have hn : n = (a.toNat * 256 + b.toNat) * 256 + c.toNat := rfl
      have := a.toNat_lt
      have := b.toNat_lt
      have := c.toNat_lt
      have joined
          : ((n / 262144 * 64 + n / 4096 % 64) * 64 + n / 64 % 64) * 64 + n % 64 = n := by
        omega
      have first : n / 65536 = a.toNat := by omega
      have second : n / 256 % 256 = b.toNat := by omega
      have third : n % 256 = c.toNat := by omega
      simp only [regroup, ih, joined, first, second, third, UInt8.ofNat_toNat]
      rfl

-----------------------------------------------------------------------------------------
-- Reading
-----------------------------------------------------------------------------------------

/-- Every symbol of an alphabet stands for its value, and none of them is padding. -/
def Alphabet.Distinct (alphabet : Alphabet) : Prop :=
  ∀ value < 64,
    alphabet.value? (alphabet.symbol value) = some value ∧ alphabet.symbol value ≠ pad

/-- The standard alphabet has a symbol of its own for each value. -/
theorem standard_distinct : Alphabet.standard.Distinct := by
  unfold Alphabet.Distinct
  decide

variable {alphabet : Alphabet}

/-- Values are read back from their symbols. -/
theorem symbolValues_map (h : alphabet.Distinct) {values : List Nat}
    (small : ∀ value ∈ values, value < 64) (offset : Nat)
    : symbolValues alphabet offset (values.map alphabet.symbol) = .ok values := by
  induction values generalizing offset with
  | nil => rfl
  | cons first rest ih =>
      rw [List.forall_mem_cons] at small
      rw [List.map_cons, symbolValues, (h first small.1).1]
      simp only [ih small.2, Except.map]

/-- Symbols at the front of the last chunk are read before the padding counts. -/
theorem lastValues_map (h : alphabet.Distinct) {values : List Nat}
    (small : ∀ value ∈ values, value < 64) (start index : Nat) (tail : List UInt8)
    : lastValues alphabet start index ⟨none, 0⟩ (values.map alphabet.symbol ++ tail)
      = (lastValues alphabet start (index + values.length) ⟨none, 0⟩ tail).map
          fun (others, count) => (values ++ others, count) := by
  induction values generalizing index with
  | nil =>
      simp only [List.map_nil, List.nil_append, List.length_nil, Nat.add_zero]
      cases lastValues alphabet start index ⟨none, 0⟩ tail <;> rfl
  | cons first rest ih =>
      rw [List.forall_mem_cons] at small
      rw [List.map_cons, List.cons_append, lastValues, if_neg (h first small.1).2]
      simp only [(h first small.1).1, ih small.2, List.length_cons]
      rw [Nat.add_right_comm, Nat.add_assoc index]
      cases lastValues alphabet start (index + (rest.length + 1)) ⟨none, 0⟩ tail <;> rfl

/-- Padding may stand only where a group has two symbols already. -/
theorem lastValues_pads (start : Nat) {index count : Nat} (few : count < 3)
    (fills : (index + count) % 4 = 0)
    : lastValues alphabet start index ⟨none, 0⟩ (List.replicate count pad)
      = .ok ([], count) := by
  have late (hc : 0 < count) : ¬index % 4 < 2 := by omega
  match count with
  | 0 => rfl
  | 1 =>
      have first := late (by decide)
      simp [List.replicate, lastValues, first]
  | 2 =>
      have first := late (by decide)
      have second : ¬(index + 1) % 4 < 2 := by omega
      simp [List.replicate, lastValues, first, second]

/-- A text is read if its front is symbols only and its last chunk fills up the last group. -/
theorem decode_of_chunks {text bytes : List UInt8} {whole tail : List Nat} {count : Nat}
    (size : text.length % 4 ≠ 1)
    (front
      : symbolValues alphabet 0 (text.take (8 * ((text.length - 1) / 8))) = .ok whole)
    (back
      : lastValues alphabet (8 * ((text.length - 1) / 8)) 0 ⟨none, 0⟩
          (text.drop (8 * ((text.length - 1) / 8)))
        = .ok (tail, count))
    (fills : (tail.length + count) % 4 = 0)
    (regrouped : regroup (whole ++ tail) = (bytes, 0))
    : decode alphabet text = .ok bytes := by
  unfold decode
  rw [if_neg size]
  simp only [front, back, fills, regrouped, bind, Except.bind, pure, Except.pure, ne_eq,
    not_true_eq_false, if_false]

/-- What is written in an alphabet is read back in it. -/
theorem decode_encode (h : alphabet.Distinct) (bytes : List UInt8)
    : decode alphabet (encode alphabet bytes) = .ok bytes := by
  have few := padCount_lt bytes
  have fills := sextets_length bytes
  have small := sextets_lt bytes
  have regrouped := regroup_sextets bytes
  rw [encode_eq]
  generalize sextets bytes = values at *
  generalize padCount bytes = count at *
  have size
      : (values.map alphabet.symbol ++ List.replicate count pad).length
        = values.length + count := by simp
  -- the last chunk begins before the padding does
  obtain ⟨start, hs⟩ : ∃ start, start = 8 * ((values.length + count - 1) / 8) := ⟨_, rfl⟩
  have early : start ≤ values.length := by omega
  have filled : ((values.drop start).length + count) % 4 = 0 := by
    rw [List.length_drop]
    omega
  have front
      : symbolValues alphabet 0 ((values.take start).map alphabet.symbol)
        = .ok (values.take start) :=
    symbolValues_map h (fun value member => small value (List.mem_of_mem_take member)) 0
  have back
      : lastValues alphabet start 0 ⟨none, 0⟩
          ((values.drop start).map alphabet.symbol ++ List.replicate count pad)
        = .ok (values.drop start, count) := by
    rw [lastValues_map h (fun value member => small value (List.mem_of_mem_drop member)),
      Nat.zero_add, lastValues_pads start few filled]
    simp [Except.map]
  have whole : regroup (values.take start ++ values.drop start) = (bytes, 0) := by
    rw [List.take_append_drop]
    exact regrouped
  refine decode_of_chunks (by omega) ?_ ?_ filled whole
  · rw [size, ← hs, List.take_append_of_le_length (by simpa using early), ← List.map_take]
    exact front
  · rw [size, ← hs, List.drop_append_of_le_length (by simpa using early), ← List.map_drop]
    exact back

end GrpcMock.Base64
