import GrpcMock.Yaml.Token

/-!
The nodes of a YAML document: scalars, sequences and mappings, and aliases that stand for nodes with
an anchor. Anchors are of a type `α`: they are names in a text, and numbers once it is known which
node each alias stands for.
-/

namespace GrpcMock.Yaml

/-- What is said of a node in front of it. -/
structure Properties (α : Type) where
  anchor : Option α
  /-- The full name of the tag. -/
  tag : Option String
  deriving DecidableEq, Repr

namespace Properties

variable {α : Type}

def empty : Properties α := ⟨none, none⟩

def isEmpty (properties : Properties α) : Bool :=
  properties.anchor.isNone && properties.tag.isNone

end Properties

inductive Node (α : Type) where
  | alias (anchor : α)
  /-- A scalar; one is plain if it has neither quotes nor an indicator. -/
  | scalar (properties : Properties α) (isPlain : Bool) (text : String)
  | sequence (properties : Properties α) (items : List (Node α))
  | mapping (properties : Properties α) (entries : List (Node α × Node α))
  deriving Repr

namespace Node

variable {α : Type}

/-- The node where nothing is written. -/
def absent : Node α := .scalar .empty true ""

mutual
/-- The number of scalars, aliases, and beginnings and ends of collections. -/
def size : Node α → Nat
  | .alias _ => 1
  | .scalar _ _ _ => 1
  | .sequence _ items => 2 + sizeOfItems items
  | .mapping _ entries => 2 + sizeOfEntries entries

def sizeOfItems : List (Node α) → Nat
  | [] => 0
  | item :: rest => size item + sizeOfItems rest

def sizeOfEntries : List (Node α × Node α) → Nat
  | [] => 0
  | (key, value) :: rest => size key + size value + sizeOfEntries rest
end

end Node

end GrpcMock.Yaml
