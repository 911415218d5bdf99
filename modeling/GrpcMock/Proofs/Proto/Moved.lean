import GrpcMock.Proto.Parse

/-!
Tokens, files and faults with their places in the text moved. The start of the text stays where it
is, as a fault that no token can tell the place of is placed there.
-/

namespace GrpcMock.Proto

/-- A way to move places. -/
structure Move where
  place : Position → Position
  start : place .start = .start

/-- All places are moved to the start of the text. -/
def Move.toStart : Move := ⟨fun _ => .start, rfl⟩

/-- Values that hold places that can be moved. -/
class Movable (α : Type) where
  /-- The value with all places in it moved. -/
  moved : Move → α → α

export Movable (moved)

section Containers

variable {α β : Type} [Movable α] [Movable β]

instance : Movable String := ⟨fun _ => id⟩

instance : Movable Int32 := ⟨fun _ => id⟩

instance : Movable Unit := ⟨fun _ => id⟩

instance : Movable Empty := ⟨fun _ => id⟩

instance : Movable Position := ⟨Move.place⟩

instance : Movable (List α) := ⟨fun move => List.map (moved move)⟩

instance : Movable (Option α) := ⟨fun move => Option.map (moved move)⟩

instance : Movable (α × β) := ⟨fun move => Prod.map (moved move) (moved move)⟩

end Containers

instance : Movable Token :=
  ⟨fun move token => { token with position := move.place token.position }⟩

instance : Movable Fault :=
  ⟨fun move fault => { fault with position := move.place fault.position }⟩

instance : Movable Field :=
  ⟨fun move field => { field with position := move.place field.position }⟩

instance : Movable Definition :=
  ⟨fun move definition =>
    {
      definition with
      position := move.place definition.position, fields := moved move definition.fields
    }⟩

instance : Movable Rpc :=
  ⟨fun move method => { method with position := move.place method.position }⟩

instance : Movable Service :=
  ⟨fun move service =>
    {
      service with
      position := move.place service.position, methods := moved move service.methods
    }⟩

instance : Movable File :=
  ⟨fun move file =>
    {
      file with
      definitions := moved move file.definitions, services := moved move file.services
    }⟩

instance {ε α : Type} [Movable ε] [Movable α] : Movable (Except ε α) :=
  ⟨fun move => fun
    | .ok value => .ok (moved move value)
    | .error failure => .error (moved move failure)⟩

instance {α : Type} [Movable α] : Movable (Step α) :=
  ⟨fun move => fun
    | .close => .close
    | .skipped => .skipped
    | .item value => .item (moved move value)⟩

instance : Movable Label := ⟨fun _ => id⟩

instance : Movable Dialect := ⟨fun _ => id⟩

instance : Movable MessageItem :=
  ⟨fun move => fun
    | .close => .close
    | .skipped => .skipped
    | .field field => .field (moved move field)
    | .mapField field entry => .mapField (moved move field) (moved move entry)
    | .enum definition => .enum (moved move definition)
    | .message name field => .message (moved move name) (moved move field)⟩

instance : Movable MessageBody :=
  ⟨fun move body => ⟨moved move body.fields, moved move body.nested⟩⟩

instance : Movable Declaration :=
  ⟨fun move => fun
    | .skipped => .skipped
    | .package name => .package (moved move name)
    | .goPackage value => .goPackage value
    | .definitions definitions => .definitions (moved move definitions)
    | .service service => .service (moved move service)⟩

/-- What a function yields is moved if what it is given is. -/
def Steady {α β : Type} [Movable α] [Movable β] (move : Move) (f : α → β) : Prop :=
  ∀ value, f (moved move value) = moved move (f value)

/-- A fault at the start of the text stays there. -/
theorem error_moved {α : Type} [Movable α] (move : Move) (cause : Cause)
    : (.error ⟨cause, .start⟩ : Except Fault α)
      = moved move (.error (Fault.mk cause .start)) := by
  change _ = Except.error (Fault.mk cause (move.place .start))
  rw [move.start]

section Steps

variable {α β : Type} [Movable α] [Movable β] {move : Move}

/-- Two steps, neither of which looks at places. The second is taken only after a success. -/
theorem bind_moved_of_ok {first other : Except Fault α} {next rest : α → Except Fault β}
    (hf : first = moved move other)
    (hn : ∀ value, other = .ok value → next (moved move value) = moved move (rest value))
    : first >>= next = moved move (other >>= rest) := by
  subst hf
  cases other with
  | ok value => exact hn value rfl
  | error fault => rfl

/-- Two steps in a row do not look at places if neither of them does. -/
theorem bind_moved {first other : Except Fault α} {next rest : α → Except Fault β}
    (hf : first = moved move other)
    (hn : ∀ value, next (moved move value) = moved move (rest value))
    : first >>= next = moved move (other >>= rest) :=
  bind_moved_of_ok hf fun value _ => hn value

/-- What a step yields may be turned into something else by any function that does not look at
places. -/
theorem map_moved {first other : Except Fault α} {f g : α → β}
    (hf : first = moved move other) (hg : ∀ value, f (moved move value) = moved move (g value))
    : first.map f = moved move (other.map g) := by
  subst hf
  cases other with
  | ok value => exact congrArg Except.ok (hg value)
  | error fault => rfl

/-- A choice does not look at places if its condition mentions none and neither branch looks at
them. -/
theorem ite_moved {condition : Prop} [Decidable condition] {yes no yesToo noToo : α}
    (hy : yes = moved move yesToo) (hn : no = moved move noToo)
    : (if condition then yes else no) = moved move (if condition then yesToo else noToo) := by
  split
  · exact hy
  · exact hn

end Steps

end GrpcMock.Proto
