import GrpcMock.Yaml.Node
import GrpcMock.Yaml.Scanner

/-!
Nodes read off tokens. Where a node may be left out, the token that comes next tells whether it is,
and what is left out is an empty scalar.
-/

namespace GrpcMock.Yaml

abbrev Tokens := List Token

/-- Takes the anchor and the tag of a node, in either order. -/
def takeProperties : Tokens → Option (List Char) × Option WrittenTag × Tokens
  | .anchor name :: .tag tag :: rest => (some name, some tag, rest)
  | .tag tag :: .anchor name :: rest => (some name, some tag, rest)
  | .anchor name :: rest => (some name, none, rest)
  | .tag tag :: rest => (none, some tag, rest)
  | rest => (none, none, rest)

theorem takeProperties_length (tokens : Tokens)
    : (takeProperties tokens).2.2.length ≤ tokens.length := by
  unfold takeProperties
  split <;> simp <;> omega

/-- Reads the properties of a node. The handle of a tag must be declared. -/
def readProperties (directives : List TagDirective) (tokens : Tokens)
    : Option (Properties String) :=
  match takeProperties tokens with
  | (anchor, none, _) => some ⟨anchor.map String.ofList, none⟩
  | (anchor, some tag, _) =>
      (tag.name? directives).map fun name => ⟨anchor.map String.ofList, some (String.ofList name)⟩

/-- Whether the next token is one of some. -/
def comesNext (choices : List Token) (tokens : Tokens) : Bool :=
  tokens.head?.any choices.contains

mutual
/-- Reads a node. Block collections may begin only in block context; a sequence that is the value of
a key may have the indentation of the key, and then does not show as a collection in the tokens. -/
def readNode (directives : List TagDirective) (inBlock mayAlign : Bool) (tokens : Tokens)
    : Option (Node String × Tokens) :=
  match tokens with
  | .alias name :: rest => some (.alias (String.ofList name), rest)
  | tokens =>
      have := takeProperties_length tokens
      match readProperties directives tokens with
      | none => none
      | some properties =>
          readContent directives inBlock mayAlign properties (takeProperties tokens).2.2
termination_by 6 * tokens.length + 2

/-- Reads a node after its properties. If there is nothing else, they belong to an empty scalar. -/
def readContent (directives : List TagDirective) (inBlock mayAlign : Bool)
    (properties : Properties String) (tokens : Tokens) : Option (Node String × Tokens) :=
  if mayAlign && comesNext [.blockEntry] tokens then
    (readAlignedItems directives tokens).map fun (items, rest) =>
      (.sequence properties items, rest)
  else
    match tokens, inBlock with
    | .scalar isPlain text :: rest, _ =>
        some (.scalar properties isPlain (String.ofList text), rest)
    | .flowSequenceStart :: rest, _ =>
        (readFlowItems directives true rest).map fun (items, rest) =>
          (.sequence properties items, rest)
    | .flowMappingStart :: rest, _ =>
        (readFlowEntries directives true rest).map fun (entries, rest) =>
          (.mapping properties entries, rest)
    | .blockSequenceStart :: rest, true =>
        (readBlockItems directives rest).map fun (items, rest) =>
          (.sequence properties items, rest)
    | .blockMappingStart :: rest, true =>
        (readBlockEntries directives rest).map fun (entries, rest) =>
          (.mapping properties entries, rest)
    | rest, _ => if properties.isEmpty then none else some (.scalar properties true "", rest)
termination_by 6 * tokens.length + 1

/-- Reads a node that is left out if one of some tokens comes next. -/
def readOptional (directives : List TagDirective) (inBlock mayAlign : Bool) (ends : List Token)
    (tokens : Tokens) : Option (Node String × Tokens) :=
  if comesNext ends tokens then some (.absent, tokens)
  else readNode directives inBlock mayAlign tokens
termination_by 6 * tokens.length + 3

/-- Reads the items of a block sequence with its end. -/
def readBlockItems (directives : List TagDirective) (tokens : Tokens)
    : Option (List (Node String) × Tokens) :=
  match tokens with
  | .blockEntry :: rest => do
      let (item, after) ← readOptional directives true false [.blockEntry, .blockEnd] rest
      if after.length ≤ rest.length then
        let (items, after) ← readBlockItems directives after
        pure (item :: items, after)
      else none
  | .blockEnd :: rest => some ([], rest)
  | _ => none
termination_by 6 * tokens.length + 1

/-- Reads the items of a sequence that has the indentation of its key. -/
def readAlignedItems (directives : List TagDirective) (tokens : Tokens)
    : Option (List (Node String) × Tokens) :=
  match tokens with
  | .blockEntry :: rest => do
      let (item, after) ←
        readOptional directives true false [.blockEntry, .key, .value, .blockEnd] rest
      if after.length ≤ rest.length then
        let (items, after) ← readAlignedItems directives after
        pure (item :: items, after)
      else none
  | rest => some ([], rest)
termination_by 6 * tokens.length

/-- Reads the entries of a block mapping with its end. -/
def readBlockEntries (directives : List TagDirective) (tokens : Tokens)
    : Option (List (Node String × Node String) × Tokens) :=
  match tokens with
  | .key :: rest => do
      let (key, after) ← readOptional directives true true [.key, .value, .blockEnd] rest
      if after.length ≤ rest.length then
        let (value, after) ← readBlockValue directives after
        if after.length ≤ rest.length then
          let (entries, after) ← readBlockEntries directives after
          pure ((key, value) :: entries, after)
        else none
      else none
  | .blockEnd :: rest => some ([], rest)
  | _ => none
termination_by 6 * tokens.length + 1
decreasing_by
  all_goals
    simp only [List.length_cons]
    omega

/-- Reads the value of a key in a block mapping, with its colon, or nothing. -/
def readBlockValue (directives : List TagDirective) (tokens : Tokens)
    : Option (Node String × Tokens) :=
  match tokens with
  | .value :: rest => readOptional directives true true [.key, .value, .blockEnd] rest
  | rest => some (.absent, rest)
termination_by 6 * tokens.length + 1

/-- Reads the items of a sequence in brackets. An item that is a key with a value is a mapping of
its own; a key that is left out takes the next token with it. -/
def readFlowItems (directives : List TagDirective) (isFirst : Bool) (tokens : Tokens)
    : Option (List (Node String) × Tokens) :=
  match tokens with
  | .flowSequenceEnd :: rest => some ([], rest)
  | tokens =>
      if !isFirst && !comesNext [.flowEntry] tokens then none
      else
        match h : if isFirst then tokens else tokens.tail with
        | .flowSequenceEnd :: rest => some ([], rest)
        | .key :: rest =>
            have : rest.length < tokens.length := by
              have := congrArg List.length h
              split at this <;> simp at this <;> omega
            do
              let (key, after) ←
                if comesNext [.value, .flowEntry, .flowSequenceEnd] rest then
                  some (.absent, rest.tail)
                else readNode directives false false rest
              if after.length < tokens.length then
                let (value, after) ← readFlowValue directives .flowSequenceEnd after
                if after.length < tokens.length then
                  let (items, after) ← readFlowItems directives false after
                  pure (.mapping .empty [(key, value)] :: items, after)
                else none
              else none
        | rest =>
            have : rest.length ≤ tokens.length := by
              rw [← h]
              split <;> simp
            do
              let (item, after) ← readNode directives false false rest
              if after.length < tokens.length then
                let (items, after) ← readFlowItems directives false after
                pure (item :: items, after)
              else none
termination_by 6 * tokens.length + 4

/-- Reads the value of a key in brackets, with its colon, or nothing. -/
def readFlowValue (directives : List TagDirective) (closing : Token) (tokens : Tokens)
    : Option (Node String × Tokens) :=
  match tokens with
  | .value :: rest => readOptional directives false false [.flowEntry, closing] rest
  | rest => some (.absent, rest)
termination_by 6 * tokens.length + 1

/-- Reads the entries of a mapping in brackets. -/
def readFlowEntries (directives : List TagDirective) (isFirst : Bool) (tokens : Tokens)
    : Option (List (Node String × Node String) × Tokens) :=
  match tokens with
  | .flowMappingEnd :: rest => some ([], rest)
  | tokens =>
      if !isFirst && !comesNext [.flowEntry] tokens then none
      else
        match h : if isFirst then tokens else tokens.tail with
        | .flowMappingEnd :: rest => some ([], rest)
        | .key :: rest =>
            have : rest.length < tokens.length := by
              have := congrArg List.length h
              split at this <;> simp at this <;> omega
            do
              let (key, after) ←
                readOptional directives false false [.value, .flowEntry, .flowMappingEnd] rest
              if after.length < tokens.length then
                let (value, after) ← readFlowValue directives .flowMappingEnd after
                if after.length < tokens.length then
                  let (entries, after) ← readFlowEntries directives false after
                  pure ((key, value) :: entries, after)
                else none
              else none
        | rest =>
            have : rest.length ≤ tokens.length := by
              rw [← h]
              split <;> simp
            do
              let (key, after) ← readNode directives false false rest
              if after.length < tokens.length then
                let (entries, after) ← readFlowEntries directives false after
                pure ((key, .absent) :: entries, after)
              else none
termination_by 6 * tokens.length + 4
end

/-- Takes the directives of a document. A version may be given once and must be one that is known; a
handle may be declared once. -/
def takeDirectives (hasVersion : Bool) (directives : List TagDirective)
    : Tokens → Option (List TagDirective × Tokens)
  | .versionDirective major minor :: rest =>
      if hasVersion || major ≠ 1 || (minor ≠ 1 && minor ≠ 2) then none
      else takeDirectives true directives rest
  | .tagDirective directive :: rest =>
      if directives.any fun other => other.handle == directive.handle then none
      else takeDirectives hasVersion (directives ++ [directive]) rest
  | rest => some (directives, rest)

/-- Whether nothing of a document is left. -/
def endsDocument : Tokens → Bool
  | [] => true
  | .versionDirective _ _ :: _ => true
  | .tagDirective _ :: _ => true
  | .documentStart :: _ => true
  | .documentEnd :: _ => true
  | _ => false

/-- Whether a document begins with a directive or a marker. -/
def startsExplicitly : Tokens → Bool
  | .versionDirective _ _ :: _ => true
  | .tagDirective _ :: _ => true
  | .documentStart :: _ => true
  | _ => false

/-- Reads the first document. -/
def readDocument (tokens : Tokens) : Option (Node String × Tokens) :=
  if startsExplicitly tokens then do
    let (directives, rest) ← takeDirectives false [] tokens
    match rest with
    | .documentStart :: rest =>
        if endsDocument rest then some (.absent, rest)
        else readNode (directives ++ standardDirectives) true false rest
    | _ => none
  else readNode standardDirectives true false tokens

/-- The node of a text that is one document. -/
def node? (text : List Char) : Option (Node String) := do
  let tokens ← tokens? text
  let (node, rest) ← readDocument tokens
  if rest.all (· = .documentEnd) then some node else none

end GrpcMock.Yaml
