import GrpcMock.Outcome
import GrpcMock.Payload.Single
import GrpcMock.Proofs.Schema.Conforms

/-!
Single values that are read from payloads. Each is of the type of its kind, and an enum gets a
position that it has a member at.
-/

namespace GrpcMock.Payload

/-- A scalar is of the type of its kind. -/
theorem readScalar_isOf {kind : FieldKind} {payload : Json} {value : Value}
    (scalar : kind.isScalar) (h : readScalar kind payload = .ok value)
    : value.isOf kind := by
  cases kind
  case enum => cases scalar
  case message => cases scalar
  case group => cases scalar
  all_goals
    obtain ⟨_, -, rfl⟩ := map_eq_ok.mp h
    rfl

/-- The key that a text stands for is of the kind that was asked for. -/
theorem mapKey?_isOf {kind : FieldKind} {text : String} {key : MapKey}
    (h : mapKey? kind text = some key)
    : key.isOf kind := by
  cases kind
  case bool =>
    simp only [mapKey?] at h
    split at h
    · cases h
      rfl
    split at h <;> cases h
    rfl
  case string =>
    cases h
    rfl
  all_goals
    first
    | cases h
    | obtain ⟨_, -, rfl⟩ := Option.map_eq_some_iff.mp h
      rfl

/-- A key of a map is of the type of its kind. -/
theorem readKey_isOf {kind : FieldKind} {text : String} {key : MapKey}
    (h : readKey kind text = .ok key)
    : key.isOf kind := by
  unfold readKey at h
  split at h
  · rename_i found
    cases h
    exact mapKey?_isOf found
  · cases h

/-- The position that a payload stands for is one of a member. -/
theorem ordinal?_lt {enum : EnumSchema} {payload : Json} {ordinal : Nat}
    (h : ordinal? enum payload = some ordinal)
    : ordinal < enum.members.length := by
  unfold ordinal? at h
  split at h
  · exact (List.findIdx?_eq_some_iff_getElem.mp h).1
  · split at h
    · exact (List.findIdx?_eq_some_iff_getElem.mp h).1
    · cases h
  · cases h

/-- A value of an enum is the position of one of its members. -/
theorem readMember_isSome {enum : EnumSchema} {payload : Json} {ordinal : Int32}
    (h : readMember enum payload = .ok ordinal)
    : (enum.member? ordinal).isSome := by
  unfold readMember at h
  split at h
  · rename_i position found
    cases h
    obtain ⟨listed, small⟩ := Option.filter_eq_some_iff.mp found
    have bound : position < 2 ^ 31 := by simpa using small
    have same : (Int32.ofNat position).toInt = position := Int32.toInt_ofNat_of_lt bound
    rw [EnumSchema.member?_isSome, same]
    exact ⟨Int.natCast_nonneg _, Int.ofNat_lt.mpr (ordinal?_lt listed)⟩
  · cases h

end GrpcMock.Payload
