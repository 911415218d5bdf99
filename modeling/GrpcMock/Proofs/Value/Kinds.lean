import GrpcMock.Value.Basic

/-!
Values of one kind. Two values whose kinds have the same name come from the same constructor, so
that a pair of them has as many cases as one value.
-/

namespace GrpcMock.Value

inductive SameKind : Value → Value → Prop
  | bool (left right : Bool) : SameKind (.bool left) (.bool right)
  | int32 (left right : Int32) : SameKind (.int32 left) (.int32 right)
  | int64 (left right : Int64) : SameKind (.int64 left) (.int64 right)
  | uint32 (left right : UInt32) : SameKind (.uint32 left) (.uint32 right)
  | uint64 (left right : UInt64) : SameKind (.uint64 left) (.uint64 right)
  | float32 (left right : UInt32) : SameKind (.float32 left) (.float32 right)
  | float64 (left right : UInt64) : SameKind (.float64 left) (.float64 right)
  | string (left right : String) : SameKind (.string left) (.string right)
  | bytes (left right : List UInt8) : SameKind (.bytes left) (.bytes right)
  | enum (left right : Int32) : SameKind (.enum left) (.enum right)
  | message (left right : List (UInt32 × Value)) : SameKind (.message left) (.message right)
  | list (left right : List Value) : SameKind (.list left) (.list right)
  | map (left right : List (MapKey × Value)) : SameKind (.map left) (.map right)

/-- The names of kinds are all different. -/
theorem SameKind.of_kindName {left right : Value} (same : left.kindName = right.kindName)
    : SameKind left right := by
  cases left <;> cases right <;> first | constructor | simp [kindName] at same

end GrpcMock.Value
