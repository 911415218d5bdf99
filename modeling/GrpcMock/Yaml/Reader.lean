import GrpcMock.Document.Typed
import GrpcMock.Yaml.Anchor
import GrpcMock.Yaml.Composition
import GrpcMock.Yaml.Scalar

/-!
Documents read from YAML text. Aliases are followed as often as they are met, so a small text could
stand for a huge or endless document. Only the parts that are needed are written out; how deep
collections may lie in each other there, and how many aliases are followed, is limited.
-/

namespace GrpcMock.Yaml

open GrpcMock.Document (Need)

/-- How many collections may lie in each other in what is read; what lies deeper can only be passed
over. -/
def depthLimit : Nat := 128

/-- How many aliases are followed for each part of a text. -/
def aliasesPerPart : Nat := 100

variable (target : Nat → Option (Node Nat))

/-- Follows a node that is an alias to the node with its anchor, unless too many aliases were
followed already. The state is how many more may be. -/
def follow : Node Nat → StateM Nat (Option (Node Nat))
  | .alias anchor => do
      match ← get with
      | 0 => pure none
      | left + 1 =>
          set left
          pure (target anchor)
  | node => pure (some node)

/-- The name that a key gives. A collection gives none. -/
def keyName (key : Node Nat) : StateM Nat (Option String) := do
  match ← follow target key with
  | some (.scalar _ _ text) => pure (some text)
  | _ => pure none

/-- The document of a collection with a tag, which counts only if it is not one that all texts
share. -/
def collection (tag : Option String) (content : Document) : Document :=
  if tag.any fun tag => tag.toList.head? = some '!' then .tagged content else content

/-- The document of a part, which can only be passed over if there is no need for it. -/
def part (write : Need → Node Nat → StateM Nat Document) (need : Option Need) (node : Node Nat)
    : StateM Nat Document :=
  match need with
  | some need => write need node
  | none => pure .unsound

/-- As much as is needed of the document of a node, which may hold collections to some depth. -/
def toDocument (depth : Nat) (need : Need) (node : Node Nat) : StateM Nat Document := do
  match depth, ← follow target node with
  | _, some (.scalar properties isPlain text) =>
      pure (Scalar.toDocument properties.tag isPlain text)
  | depth + 1, some (.sequence properties items) =>
      let items ← items.mapM fun item => part (toDocument depth) need.item? item
      pure (collection properties.tag (.list false items true))
  | depth + 1, some (.mapping properties entries) =>
      let members ← entries.mapM fun (key, value) => do
        let name ← keyName target key
        let value ← part (toDocument depth) (need.member? name) value
        pure (name, value)
      pure (collection properties.tag (.table members true))
  | _, _ => pure .unsound

/-- As much as is needed of the document of a text that is in order. -/
def document? (need : Need) (text : String) : Option Document := do
  let node ← node? text.toList
  let (node, _) ← node.number []
  let document := toDocument node.anchored? depthLimit need node
  pure (document.run (aliasesPerPart * node.size)).1

/-- Reads a text as a value of a type. It does not tell why a text cannot be read. -/
def readTyped? {α : Type} (reader : Document.Reader α) (text : String) : Option α :=
  (document? reader.need text).bind fun document => (reader.read document).toOption

end GrpcMock.Yaml
