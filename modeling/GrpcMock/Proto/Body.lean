import GrpcMock.Outcome
import GrpcMock.Proto.Expect
import GrpcMock.Proto.File

/-!
The bodies of enums and services: items up to a closing brace. A reader for one item comes with the
proof that it takes at least one token, so reading all of them ends.
-/

namespace GrpcMock.Proto

/-- What a reader found next in a body. -/
inductive Step (α : Type) where
  | close
  | skipped
  | item (value : α)

structure ItemReader (α : Type) where
  read : Tokens → Except Fault (Step α × Tokens)
  shorter : ∀ {tokens step rest}, read tokens = .ok (step, rest) → rest.length < tokens.length

/-- Reads the items of a body with its closing brace. -/
def ItemReader.all {α : Type} (reader : ItemReader α) (tokens : Tokens)
    : Except Fault (List α × Tokens) :=
  match h : reader.read tokens with
  | .error fault => .error fault
  | .ok (.close, rest) => .ok ([], rest)
  | .ok (.skipped, rest) =>
      have := reader.shorter h
      reader.all rest
  | .ok (.item value, rest) =>
      have := reader.shorter h
      match reader.all rest with
      | .error fault => .error fault
      | .ok (values, after) => .ok (value :: values, after)
termination_by tokens.length

theorem ItemReader.all_length {α : Type} {reader : ItemReader α} {tokens rest : Tokens}
    {values : List α} (h : reader.all tokens = .ok (values, rest))
    : rest.length < tokens.length := by
  fun_induction reader.all tokens generalizing values rest with
  | case1 => simp at h
  | case2 tokens left hr =>
      have := reader.shorter hr
      simp_all
  | case3 tokens left hr _ ih =>
      have := reader.shorter hr
      have := ih h
      omega
  | case4 => simp at h
  | case5 tokens value left hr _ values' after ha ih =>
      have := reader.shorter hr
      have := ih ha
      simp only [Except.ok.injEq, Prod.mk.injEq] at h
      obtain ⟨-, rfl⟩ := h
      omega

/-- Reads the number of a field or value: an equals sign, an integer, perhaps options, and the token
that closes the declaration or opens its body. -/
def readNumber (closing : String) (tokens : Tokens) : Except Fault (Int32 × Tokens) := do
  let rest ← expectWord "=" tokens
  let (number, rest) ← expectInteger rest
  let rest ← skipOptions rest
  let rest ← expectWord closing rest
  pure (number, rest)

theorem readNumber_length {closing : String} {tokens rest : Tokens} {number : Int32}
    (h : readNumber closing tokens = .ok (number, rest))
    : rest.length < tokens.length := by
  simp only [readNumber, bind_eq_ok, pure_eq_ok] at h
  obtain ⟨_, h1, ⟨_, _⟩, h2, _, h3, _, h4, h5⟩ := h
  have := expectWord_length h1
  have := expectInteger_length h2
  have := skipOptions_length h3
  have := expectWord_length h4
  simp only [Prod.mk.injEq] at h5
  obtain ⟨-, rfl⟩ := h5
  dsimp only at *
  omega

/-- Reads one item of an enum: a value, or a statement that is passed over. -/
def readValue : Tokens → Except Fault (Step Field × Tokens)
  | [] => .error (unexpected [])
  | token :: rest =>
      if token.text = "\x7d" then .ok (.close, rest)
      else if token.text = "" then .error (unexpected (token :: rest))
      else if token.text = ";" then .ok (.skipped, rest)
      else if token.text = "option" ∨ token.text = "reserved" ∨ token.text = "extensions" then
        (skipStatement 0 rest).map (.skipped, ·)
      else do
        let (name, rest) ← expect .identifier (token :: rest)
        let (number, rest) ← readNumber ";" rest
        pure (.item ⟨name.text, name.position, none, .singular, number⟩, rest)

theorem readValue_length {tokens rest : Tokens} {step : Step Field}
    (h : readValue tokens = .ok (step, rest))
    : rest.length < tokens.length := by
  unfold readValue at h
  split at h
  · simp at h
  · rename_i token left
    split at h
    · simp_all
    split at h
    · simp at h
    split at h
    · simp_all
    split at h
    · simp only [map_eq_ok, Prod.mk.injEq] at h
      obtain ⟨_, hs, -, rfl⟩ := h
      have := skipStatement_length hs
      simp only [List.length_cons]
      omega
    · simp only [bind_eq_ok, pure_eq_ok, Prod.mk.injEq] at h
      obtain ⟨⟨_, _⟩, h1, ⟨_, _⟩, h2, -, rfl⟩ := h
      have := expect_length h1
      have := readNumber_length h2
      dsimp only at *
      omega

def valueReader : ItemReader Field := ⟨readValue, readValue_length⟩

/-- Fails at the words that would begin a streamed type. -/
def refuseStream : Tokens → Except Fault Unit
  | [] => .ok ()
  | token :: _ =>
      if token.text = "stream" then .error ⟨.unsupported "Streaming", token.position⟩ else .ok ()

/-- Reads one item of the options that may follow a method in braces. -/
def readMethodOption : Tokens → Except Fault (Step Empty × Tokens)
  | [] => .error (unexpected [])
  | token :: rest =>
      if token.text = "\x7d" then .ok (.close, rest)
      else if token.text = "" then .error (unexpected (token :: rest))
      else if token.text = ";" then .ok (.skipped, rest)
      else do
        let rest ← expectWord "option" (token :: rest)
        let rest ← skipStatement 0 rest
        pure (.skipped, rest)

theorem readMethodOption_length {tokens rest : Tokens} {step : Step Empty}
    (h : readMethodOption tokens = .ok (step, rest))
    : rest.length < tokens.length := by
  unfold readMethodOption at h
  split at h
  · simp at h
  · split at h
    · simp_all
    split at h
    · simp at h
    split at h
    · simp_all
    simp only [bind_eq_ok, pure_eq_ok, Prod.mk.injEq] at h
    obtain ⟨_, h1, _, h2, -, rfl⟩ := h
    have := expectWord_length h1
    have := skipStatement_length h2
    omega

def methodOptionReader : ItemReader Empty := ⟨readMethodOption, readMethodOption_length⟩

/-- Reads what ends a method: a semicolon, or options in braces. -/
def endMethod : Tokens → Except Fault Tokens
  | [] => expectWord ";" []
  | token :: rest =>
      if token.text = "\x7b" then (methodOptionReader.all rest).map Prod.snd
      else expectWord ";" (token :: rest)

theorem endMethod_length {tokens rest : Tokens} (h : endMethod tokens = .ok rest)
    : rest.length < tokens.length := by
  unfold endMethod at h
  split at h
  · exact expectWord_length h
  split at h
  · simp only [map_eq_ok] at h
    obtain ⟨⟨_, _⟩, h1, rfl⟩ := h
    have := ItemReader.all_length h1
    simp only [List.length_cons]
    omega
  · exact expectWord_length h

/-- Reads a type in parentheses. -/
def readTypeInParens (tokens : Tokens) : Except Fault (String × Tokens) := do
  let rest ← expectWord "(" tokens
  refuseStream rest
  let (type, rest) ← expect .typeName rest
  let rest ← expectWord ")" rest
  pure (type.text, rest)

theorem readTypeInParens_length {tokens rest : Tokens} {type : String}
    (h : readTypeInParens tokens = .ok (type, rest))
    : rest.length < tokens.length := by
  simp only [readTypeInParens, bind_eq_ok, pure_eq_ok, Prod.mk.injEq] at h
  obtain ⟨_, h1, _, -, ⟨_, _⟩, h2, _, h3, -, rfl⟩ := h
  have := expectWord_length h1
  have := expect_length h2
  have := expectWord_length h3
  dsimp only at *
  omega

/-- Reads one item of a service: a method, or a statement that is passed over. -/
def readMethod : Tokens → Except Fault (Step Rpc × Tokens)
  | [] => (expectWord "rpc" []).map (.skipped, ·)
  | token :: rest =>
      if token.text = "\x7d" then .ok (.close, rest)
      else if token.text = ";" then .ok (.skipped, rest)
      else if token.text = "option" then (skipStatement 0 rest).map (.skipped, ·)
      else do
        let rest ← expectWord "rpc" (token :: rest)
        let (name, rest) ← expect .identifier rest
        let (input, rest) ← readTypeInParens rest
        let rest ← expectWord "returns" rest
        let (output, rest) ← readTypeInParens rest
        let rest ← endMethod rest
        pure (.item ⟨name.text, name.position, input, output⟩, rest)

theorem readMethod_length {tokens rest : Tokens} {step : Step Rpc}
    (h : readMethod tokens = .ok (step, rest))
    : rest.length < tokens.length := by
  unfold readMethod at h
  split at h
  · simp [expectWord, expect, Except.map] at h
  split at h
  · simp_all
  split at h
  · simp_all
  split at h
  · simp only [map_eq_ok, Prod.mk.injEq] at h
    obtain ⟨_, hs, -, rfl⟩ := h
    have := skipStatement_length hs
    simp only [List.length_cons]
    omega
  · simp only [bind_eq_ok, pure_eq_ok, Prod.mk.injEq] at h
    obtain ⟨_, h1, ⟨_, _⟩, h2, ⟨_, _⟩, h3, _, h4, ⟨_, _⟩, h5, _, h6, -, rfl⟩ := h
    have := expectWord_length h1
    have := expect_length h2
    have := readTypeInParens_length h3
    have := expectWord_length h4
    have := readTypeInParens_length h5
    have := endMethod_length h6
    dsimp only at *
    omega

def methodReader : ItemReader Rpc := ⟨readMethod, readMethod_length⟩

end GrpcMock.Proto
