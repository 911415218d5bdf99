import GrpcMock.Proofs.Proto.Blind
import GrpcMock.Proofs.Proto.Compile
import GrpcMock.Proofs.Proto.Placeless
import GrpcMock.Proofs.Proto.Respacing

/-!
The layout of a schema text: white space, comments and line breaks. It decides on the places in a
file and on nothing else, so texts with the same tokens mean the same.
-/

namespace GrpcMock.Proto

/-- A failure without the place in a schema text that it may name. -/
def Failure.unplaced : Failure → Failure
  | .malformedSchema fault => .malformedSchema (Placed.unplaced fault)
  | .inCase service method case failure => .inCase service method case (Failure.unplaced failure)
  | failure => failure

instance : Placed Failure := ⟨Failure.unplaced⟩

/-- A package holds no places. -/
instance : Placed Package := ⟨id⟩

/-- What a file declares, if it keeps all rules. -/
def File.accept (file : File) : Except Failure Package := do
  file.check.mapError .violation
  linkFile file

/-- A text is compiled by reading it and accepting what is read. -/
theorem compile_eq (text : String) : compile text = Proto.read text >>= File.accept := by
  unfold compile readChecked
  cases Proto.read text with
  | error => rfl
  | ok file =>
      change (file.check.mapError .violation >>= fun _ => pure file) >>= linkFile = file.accept
      unfold File.accept
      cases file.check <;> rfl

/-- Files that differ in places only are accepted alike. What they declare is the same because
both declare what is left of them without places. -/
theorem File.accept_eq {file other : File} (written : file.Written) (writtenToo : other.Written)
    (same : unplaced file = unplaced other)
    : file.accept = other.accept := by
  have checks : file.check = other.check := by
    rw [← file.check_unplaced, same, other.check_unplaced]
  unfold accept
  rw [← checks]
  cases checked : file.check with
  | error violation => rfl
  | ok =>
      obtain ⟨package, links, declares⟩ := link_declares (.of_check written checked)
      obtain ⟨packageToo, linksToo, declaresToo⟩ :=
        link_declares (.of_check writtenToo (checks ▸ checked))
      have one : package = packageToo := (same ▸ declares.placeless).unique declaresToo.placeless
      change linkFile file = linkFile other
      rw [linkFile, linkFile, links, linksToo, one]

/-- Texts that are read alike compile alike. -/
theorem compile_alike {left right : String}
    (same : unplaced (File.ofText left) = unplaced (File.ofText right))
    : unplaced (compile left) = unplaced (compile right) := by
  rw [compile_eq, compile_eq, Proto.read, Proto.read]
  cases first : File.ofText left with
  | error fault =>
      cases second : File.ofText right with
      | error other =>
          rw [first, second] at same
          have faults : unplaced fault = unplaced other := Except.error.inj same
          exact congrArg (fun fault => Except.error (Failure.malformedSchema fault)) faults
      | ok =>
          rw [first, second] at same
          cases same
  | ok file =>
      cases second : File.ofText right with
      | error =>
          rw [first, second] at same
          cases same
      | ok other =>
          rw [first, second] at same
          have files : unplaced file = unplaced other := Except.ok.inj same
          exact congrArg unplaced (File.accept_eq (.of_text first) (.of_text second) files)

/-- Tokens with the same texts differ in places only. -/
theorem unplaced_tokens {left right : Tokens} (same : left.map (·.text) = right.map (·.text))
    : unplaced left = unplaced right := by
  have texts (tokens : Tokens)
      : unplaced tokens = (tokens.map (·.text)).map fun text => ⟨text, .start⟩ := by
    rw [List.map_map]
    rfl
  rw [texts, texts, same]

/-- Layout does not matter. Texts with the same tokens are parsed and compiled to the same, apart
from places, or they fail alike; and any text can be laid out anew with single spaces between its
tokens, with the empty token at the end or without it. -/
theorem layout_irrelevant
    : (∀ left right tokens others,
        tokenize left = .ok tokens
        → tokenize right = .ok others
        → tokens.map (·.text) = others.map (·.text)
        → unplaced (parse tokens) = unplaced (parse others)
          ∧ unplaced (compile left) = unplaced (compile right))
      ∧ ∀ text tokens,
          tokenize text = .ok tokens
          → ∀ joined ∈ [tokens.map (·.text), (tokens.map (·.text)).dropLast],
              ∃ others,
                tokenize (" ".intercalate joined) = .ok others
                ∧ others.map (·.text) = tokens.map (·.text) := by
  refine ⟨fun left right tokens others hl hr same => ?_, fun _ _ => tokenize_respaced⟩
  have parsed : unplaced (parse tokens) = unplaced (parse others) := by
    rw [← parse_blind, ← parse_blind, unplaced_tokens same]
  have leftFile : File.ofText left = parse tokens := bind_of_eq_ok hl
  have rightFile : File.ofText right = parse others := bind_of_eq_ok hr
  exact ⟨parsed, compile_alike (by rw [leftFile, rightFile, parsed])⟩

/-- A message on one line. -/
def shelfLine : String :=
  "message Shelf \x7b .depot.Shelf next = -1; \x7d package depot;"

/-- The same message with a comment and line breaks. -/
def shelfLines : String :=
  "message Shelf\x7b\n  .depot.Shelf next=-1; // below\n\x7d\npackage depot;\n"

def shelfTexts : List String :=
  ["message", "Shelf", "\x7b", ".depot.Shelf", "next", "=", "-1", ";", "\x7d", "package", "depot",
    ";", ""]

/-- The shelf on one line and on several is read alike, and so it is with blanks between its
tokens. -/
theorem layout_irrelevant_shelf
    : ∃ tokens others,
        (tokenize shelfLine = .ok tokens
          ∧ tokenize shelfLines = .ok others
          ∧ tokens.map (·.text) = others.map (·.text))
        ∧ unplaced (parse tokens) = unplaced (parse others)
        ∧ unplaced (compile shelfLine) = unplaced (compile shelfLines)
        ∧ ∃ respaced,
            tokenize (" ".intercalate shelfTexts) = .ok respaced
            ∧ respaced.map (·.text) = shelfTexts := by
  have line : (tokenize shelfLine).toOption.map (List.map (·.text)) = some shelfTexts := by
    decide +kernel
  have lines : (tokenize shelfLines).toOption.map (List.map (·.text)) = some shelfTexts := by
    decide +kernel
  obtain ⟨tokens, read, texts⟩ := Option.map_eq_some_iff.mp line
  obtain ⟨others, readToo, textsToo⟩ := Option.map_eq_some_iff.mp lines
  have premises
      : tokenize shelfLine = .ok tokens
        ∧ tokenize shelfLines = .ok others
        ∧ tokens.map (·.text) = others.map (·.text) :=
    ⟨toOption_eq_some.mp read, toOption_eq_some.mp readToo, texts.trans textsToo.symm⟩
  obtain ⟨parsed, compiled⟩ :=
    layout_irrelevant.1 shelfLine shelfLines tokens others premises.1 premises.2.1 premises.2.2
  have respaced := layout_irrelevant.2 shelfLine tokens premises.1 _ (List.mem_cons_self ..)
  exact ⟨tokens, others, premises, parsed, compiled, texts ▸ respaced⟩

end GrpcMock.Proto
