import GrpcMock.Yaml.Node

/-!
Anchors by number. An alias stands for the node that its name was last given to, and the numbers say
which one that is wherever the alias is followed from.
-/

namespace GrpcMock.Yaml

/-- The numbers of the names given so far, each name once. -/
abbrev Names := List (String × Nat)

namespace Names

/-- The names with one more. It is numbered by how many different names came before it, so a name
that is given again can have the number of a later name. -/
def give (names : Names) (name : String) : Names :=
  (name, names.length) :: names.filter fun entry => entry.1 ≠ name

/-- Numbers the anchor of a node. -/
def number (names : Names) (properties : Properties String) : Properties Nat × Names :=
  (
    { properties with anchor := properties.anchor.map fun _ => names.length },
    properties.anchor.elim names names.give
  )

end Names

namespace Node

mutual
/-- Numbers the anchors of a node and the aliases for them, in the order of the text. There is no
such numbering if an alias has a name that was not given before it. -/
def number (names : Names) : Node String → Option (Node Nat × Names)
  | .alias name => (names.lookup name).map fun anchor => (.alias anchor, names)
  | .scalar properties isPlain text =>
      let (properties, names) := names.number properties
      some (.scalar properties isPlain text, names)
  | .sequence properties items => do
      let (properties, names) := names.number properties
      let (items, names) ← numberItems names items
      pure (.sequence properties items, names)
  | .mapping properties entries => do
      let (properties, names) := names.number properties
      let (entries, names) ← numberEntries names entries
      pure (.mapping properties entries, names)

def numberItems (names : Names) : List (Node String) → Option (List (Node Nat) × Names)
  | [] => some ([], names)
  | item :: rest => do
      let (item, names) ← number names item
      let (rest, names) ← numberItems names rest
      pure (item :: rest, names)

def numberEntries (names : Names)
    : List (Node String × Node String) → Option (List (Node Nat × Node Nat) × Names)
  | [] => some ([], names)
  | (key, value) :: rest => do
      let (key, names) ← number names key
      let (value, names) ← number names value
      let (rest, names) ← numberEntries names rest
      pure ((key, value) :: rest, names)
end

variable {α : Type}

/-- The anchor of a node. -/
def anchor : Node α → Option α
  | .alias _ => none
  | .scalar properties _ _ => properties.anchor
  | .sequence properties _ => properties.anchor
  | .mapping properties _ => properties.anchor

mutual
/-- A node and all that it holds, in the order in which they begin. -/
def parts : Node α → List (Node α)
  | .alias anchor => [.alias anchor]
  | .scalar properties isPlain text => [.scalar properties isPlain text]
  | .sequence properties items => .sequence properties items :: itemParts items
  | .mapping properties entries => .mapping properties entries :: entryParts entries

def itemParts : List (Node α) → List (Node α)
  | [] => []
  | item :: rest => parts item ++ itemParts rest

def entryParts : List (Node α × Node α) → List (Node α)
  | [] => []
  | (key, value) :: rest => parts key ++ parts value ++ entryParts rest
end

/-- The node with an anchor, or the last of them if there are several. -/
def anchored? [DecidableEq α] (root : Node α) (anchor : α) : Option (Node α) :=
  root.parts.reverse.find? fun part => part.anchor = some anchor

end Node

end GrpcMock.Yaml
