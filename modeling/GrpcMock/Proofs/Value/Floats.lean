import GrpcMock.Value.Basic

/-!
Values that hold a float somewhere.
-/

namespace GrpcMock.Value

/-- A float stands in a value, at whatever depth. -/
inductive HoldsFloat : Value → Prop
  | float32 {bits : UInt32} : HoldsFloat (.float32 bits)
  | float64 {bits : UInt64} : HoldsFloat (.float64 bits)
  | message {fields : List (UInt32 × Value)} {pair : UInt32 × Value} (member : pair ∈ fields)
      (inside : HoldsFloat pair.2)
    : HoldsFloat (.message fields)
  | list {items : List Value} {item : Value} (member : item ∈ items) (inside : HoldsFloat item)
    : HoldsFloat (.list items)
  | map {entries : List (MapKey × Value)} {pair : MapKey × Value} (member : pair ∈ entries)
      (inside : HoldsFloat pair.2)
    : HoldsFloat (.map entries)

/-- A message holds a floating-point number if one of its fields does. -/
theorem holdsFloat_message {fields : List (UInt32 × Value)}
    : HoldsFloat (.message fields) ↔ ∃ pair ∈ fields, HoldsFloat pair.2 :=
  ⟨fun | .message member inside => ⟨_, member, inside⟩,
    fun ⟨_, member, inside⟩ => .message member inside⟩

/-- A list does if one of its items does. -/
theorem holdsFloat_list {items : List Value}
    : HoldsFloat (.list items) ↔ ∃ item ∈ items, HoldsFloat item :=
  ⟨fun | .list member inside => ⟨_, member, inside⟩,
    fun ⟨_, member, inside⟩ => .list member inside⟩

/-- A map does if one of its values does. -/
theorem holdsFloat_map {entries : List (MapKey × Value)}
    : HoldsFloat (.map entries) ↔ ∃ pair ∈ entries, HoldsFloat pair.2 :=
  ⟨fun | .map member inside => ⟨_, member, inside⟩,
    fun ⟨_, member, inside⟩ => .map member inside⟩

end GrpcMock.Value
