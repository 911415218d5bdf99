import GrpcMock.Proto.Parse

/-!
What is left of tokens, files and faults if their places in the text do not count: all places are
moved to the start of the text.
-/

namespace GrpcMock.Proto

/-- Values that hold places in a text. -/
class Placed (α : Type) where
  /-- The value with all places in it at the start. -/
  unplaced : α → α

export Placed (unplaced)

section Containers

variable {α β : Type} [Placed α] [Placed β]

instance : Placed String := ⟨id⟩

instance : Placed Int32 := ⟨id⟩

instance : Placed Unit := ⟨id⟩

instance : Placed Empty := ⟨id⟩

instance : Placed Position := ⟨fun _ => .start⟩

instance : Placed (List α) := ⟨List.map unplaced⟩

instance : Placed (Option α) := ⟨Option.map unplaced⟩

instance : Placed (α × β) := ⟨Prod.map unplaced unplaced⟩

end Containers

instance : Placed Token := ⟨fun token => { token with position := .start }⟩

instance : Placed Fault := ⟨fun fault => { fault with position := .start }⟩

instance : Placed Field := ⟨fun field => { field with position := .start }⟩

instance : Placed Definition :=
  ⟨fun definition =>
    { definition with position := .start, fields := unplaced definition.fields }⟩

instance : Placed Rpc := ⟨fun method => { method with position := .start }⟩

instance : Placed Service :=
  ⟨fun service => { service with position := .start, methods := unplaced service.methods }⟩

instance : Placed File :=
  ⟨fun file =>
    { file with definitions := unplaced file.definitions, services := unplaced file.services }⟩

instance {ε α : Type} [Placed ε] [Placed α] : Placed (Except ε α) :=
  ⟨fun
    | .ok value => .ok (unplaced value)
    | .error failure => .error (unplaced failure)⟩

instance {α : Type} [Placed α] : Placed (Step α) :=
  ⟨fun
    | .close => .close
    | .skipped => .skipped
    | .item value => .item (unplaced value)⟩

instance : Placed Label := ⟨id⟩

instance : Placed Dialect := ⟨id⟩

instance : Placed MessageItem :=
  ⟨fun
    | .close => .close
    | .skipped => .skipped
    | .field field => .field (unplaced field)
    | .mapField field entry => .mapField (unplaced field) (unplaced entry)
    | .enum definition => .enum (unplaced definition)
    | .message name field => .message (unplaced name) (unplaced field)⟩

instance : Placed MessageBody := ⟨fun body => ⟨unplaced body.fields, unplaced body.nested⟩⟩

instance : Placed Declaration :=
  ⟨fun
    | .skipped => .skipped
    | .package name => .package (unplaced name)
    | .goPackage value => .goPackage value
    | .definitions definitions => .definitions (unplaced definitions)
    | .service service => .service (unplaced service)⟩

/-- Places decide on nothing in what a function does. -/
def Blind {α β : Type} [Placed α] [Placed β] (f : α → β) : Prop :=
  ∀ value, f (unplaced value) = unplaced (f value)

end GrpcMock.Proto
