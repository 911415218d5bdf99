import GrpcMock.Proto.Message

/-!
Schema files read from tokens. A file begins with the name of its dialect, unless it is in the
oldest one, and goes on with declarations in any order up to the empty token.
-/

namespace GrpcMock.Proto

/-- A declaration of a file. -/
inductive Declaration where
  | skipped
  | package (name : Token)
  | goPackage (value : String)
  | definitions (definitions : List Definition)
  | service (service : Service)

/-- Reads an option, the keyword already taken. All but one are passed over. -/
def readOption : Tokens → Except Fault (Declaration × Tokens)
  | [] => .error (unexpected [])
  | token :: rest =>
      if token.text = "go_package" then do
        let rest ← expectWord "=" rest
        let (value, _, rest) ← expectString rest
        let rest ← expectWord ";" rest
        pure (.goPackage value, rest)
      else (skipStatement 0 (token :: rest)).map (.skipped, ·)

theorem readOption_length {tokens rest : Tokens} {declaration : Declaration}
    (h : readOption tokens = .ok (declaration, rest))
    : rest.length < tokens.length := by
  unfold readOption at h
  split at h
  · simp at h
  split at h
  · simp only [bind_eq_ok, pure_eq_ok, Prod.mk.injEq] at h
    obtain ⟨_, h1, ⟨_, _, _⟩, h2, _, h3, -, rfl⟩ := h
    have := expectWord_length h1
    have := expectString_length h2
    have := expectWord_length h3
    simp only [List.length_cons]
    dsimp only at *
    omega
  · simp only [map_eq_ok, Prod.mk.injEq] at h
    obtain ⟨_, hs, -, rfl⟩ := h
    exact skipStatement_length hs

/-- Reads a message of its own, the keyword already taken. -/
def readMessage (tokens : Tokens) : Except Fault (Declaration × Tokens) := do
  let (name, rest) ← expect .identifier tokens
  let rest ← expectWord "\x7b" rest
  let (body, rest) ← readMessageBody name.text rest
  pure (.definitions (body.definitions name.text name.position), rest.1)

theorem readMessage_length {tokens rest : Tokens} {declaration : Declaration}
    (h : readMessage tokens = .ok (declaration, rest))
    : rest.length < tokens.length := by
  simp only [readMessage, bind_eq_ok, pure_eq_ok, Prod.mk.injEq] at h
  obtain ⟨⟨_, _⟩, h1, _, h2, ⟨_, after⟩, -, -, rfl⟩ := h
  have := expect_length h1
  have := expectWord_length h2
  have := after.2
  dsimp only at *
  omega

/-- Reads a service, the keyword already taken. -/
def readService (tokens : Tokens) : Except Fault (Declaration × Tokens) := do
  let (name, rest) ← expect .identifier tokens
  let rest ← expectWord "\x7b" rest
  let (methods, rest) ← methodReader.all rest
  pure (.service ⟨name.text, name.position, methods⟩, rest)

theorem readService_length {tokens rest : Tokens} {declaration : Declaration}
    (h : readService tokens = .ok (declaration, rest))
    : rest.length < tokens.length := by
  simp only [readService, bind_eq_ok, pure_eq_ok, Prod.mk.injEq] at h
  obtain ⟨⟨_, _⟩, h1, _, h2, ⟨_, _⟩, h3, -, rfl⟩ := h
  have := expect_length h1
  have := expectWord_length h2
  have := ItemReader.all_length h3
  dsimp only at *
  omega

/-- Reads the name of a package with its semicolon, the keyword already taken. There may be only one
in a file. -/
def readPackage (isFirst : Bool) (tokens : Tokens) : Except Fault (Declaration × Tokens) := do
  let (name, rest) ← expect .packageName tokens
  if isFirst then
    let rest ← expectWord ";" rest
    pure (.package name, rest)
  else .error ⟨.repeatedPackage, name.position⟩

theorem readPackage_length {isFirst : Bool} {tokens rest : Tokens} {declaration : Declaration}
    (h : readPackage isFirst tokens = .ok (declaration, rest))
    : rest.length < tokens.length := by
  simp only [readPackage, bind_eq_ok] at h
  obtain ⟨⟨_, _⟩, h1, h⟩ := h
  split at h
  · simp only [bind_eq_ok, pure_eq_ok, Prod.mk.injEq] at h
    obtain ⟨_, h2, -, rfl⟩ := h
    have := expect_length h1
    have := expectWord_length h2
    omega
  · simp at h

/-- Reads one declaration; `isFirst` tells that no package has been named before it. -/
def readDeclaration (isFirst : Bool) (token : Token) (rest : Tokens)
    : Except Fault (Declaration × Tokens) :=
  if token.text = ";" then .ok (.skipped, rest)
  else if token.text = "package" then readPackage isFirst rest
  else if token.text = "option" then readOption rest
  else if token.text = "import" then .error ⟨.unsupported "import", token.position⟩
  else if token.text = "message" then readMessage rest
  else if token.text = "enum" then
    (readEnum "" rest).map fun (definition, rest) => (.definitions [definition], rest)
  else if token.text = "service" then readService rest
  else if token.text = "oneof" ∨ token.text = "extend" then
    .error ⟨.unsupported token.text, token.position⟩
  else .error (unexpected (token :: rest))

theorem readDeclaration_length {isFirst : Bool} {token : Token} {left rest : Tokens}
    {declaration : Declaration} (h : readDeclaration isFirst token left = .ok (declaration, rest))
    : rest.length ≤ left.length := by
  unfold readDeclaration at h
  split at h
  · simp_all
  split at h
  · exact Nat.le_of_lt (readPackage_length h)
  split at h
  · exact Nat.le_of_lt (readOption_length h)
  split at h
  · simp at h
  split at h
  · exact Nat.le_of_lt (readMessage_length h)
  split at h
  · simp only [map_eq_ok, Prod.mk.injEq] at h
    obtain ⟨⟨_, _⟩, he, -, rfl⟩ := h
    exact Nat.le_of_lt (readEnum_length he)
  split at h
  · exact Nat.le_of_lt (readService_length h)
  split at h <;> simp at h

/-- A file with one more declaration after those that it has. -/
def File.declare (file : File) : Declaration → File
  | .skipped => file
  | .package name => { file with package := some name.text }
  | .goPackage value => { file with goPackage := some value }
  | .definitions definitions => { file with definitions := file.definitions ++ definitions }
  | .service service => { file with services := file.services ++ [service] }

/-- Reads declarations up to and including the empty token. -/
def readDeclarations (file : File) : Tokens → Except Fault (File × Tokens)
  | [] => .ok (file, [])
  | token :: rest =>
      if token.text = "" then .ok (file, rest)
      else
        match h : readDeclaration file.package.isNone token rest with
        | .error fault => .error fault
        | .ok (declaration, after) =>
            have := readDeclaration_length h
            readDeclarations (file.declare declaration) after
termination_by tokens => tokens.length
decreasing_by
  simp only [List.length_cons]
  omega

/-- The dialect with a name. -/
def Dialect.ofName? (name : String) : Option Dialect :=
  if name = "proto2" then some .proto2 else if name = "proto3" then some .proto3 else none

/-- Reads the line that names the dialect, if there is one. -/
def readDialect : Tokens → Except Fault (Dialect × Tokens)
  | [] => .ok (.proto2, [])
  | token :: rest =>
      if token.text = "syntax" then do
        let rest ← expectWord "=" rest
        let (name, position, rest) ← expectString rest
        match Dialect.ofName? name with
        | none => .error ⟨.unknownDialect name, position⟩
        | some dialect =>
            let rest ← expectWord ";" rest
            pure (dialect, rest)
      else .ok (.proto2, token :: rest)

/-- Reads a file, with the tokens that are left after it. -/
def readFile (tokens : Tokens) : Except Fault (File × Tokens) := do
  let (dialect, rest) ← readDialect tokens
  readDeclarations { File.empty with dialect } rest

def parse (tokens : Tokens) : Except Fault File :=
  (readFile tokens).map Prod.fst

/-- The file that a text writes. -/
def File.ofText (text : String) : Except Fault File := do
  let tokens ← tokenize text
  parse tokens

end GrpcMock.Proto
