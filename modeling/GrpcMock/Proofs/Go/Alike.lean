import GrpcMock.Proofs.Failure
import GrpcMock.Proofs.Go.Items

/-!
Whether a value has a literal, and how it fails to have one, does not depend on how identifiers are
written or on what was mentioned before. So the bare names of identifiers are enough to tell.
-/

namespace GrpcMock

namespace Sorted

variable {κ α β : Type} [LT κ] [DecidableLT κ] [DecidableEq κ] {related : α → β → Prop}

/-- Values that are related under the same keys. -/
def Matches (related : α → β → Prop) (left : κ × α) (right : κ × β) : Prop :=
  left.1 = right.1 ∧ related left.2 right.2

omit [LT κ] [DecidableLT κ] [DecidableEq κ] in
/-- What matches has the same key. -/
theorem Matches.key_eq {left : κ × α} {right : κ × β} (h : Matches related left right)
    : left.1 = right.1 :=
  h.1

/-- Lists that match still do after related values are put in under one key, by induction on
them. -/
theorem insert_matches {key : κ} {value : α} {other : β} (both : related value other)
    {left : List (κ × α)} {right : List (κ × β)}
    (h : List.Forall₂ (Matches related) left right)
    : List.Forall₂ (Matches related) (insert key value left) (insert key other right) := by
  induction h with
  | nil => exact .cons ⟨rfl, both⟩ .nil
  | @cons first partner _ _ same rest ih =>
      obtain ⟨name, held⟩ := first
      obtain ⟨_, heldToo⟩ := partner
      obtain ⟨rfl, alike⟩ := same
      rw [insert, insert]
      split
      · exact .cons ⟨rfl, both⟩ (.cons ⟨rfl, alike⟩ rest)
      split
      · exact .cons ⟨rfl, both⟩ rest
      · exact .cons ⟨rfl, alike⟩ ih

/-- Sorting puts values under the same keys at the same places. -/
theorem ofList_matches {left : List (κ × α)} {right : List (κ × β)}
    (h : List.Forall₂ (Matches related) left right)
    : List.Forall₂ (Matches related) (ofList left) (ofList right) := by
  have all
      : ∀ before after,
          List.Forall₂ (Matches related) before after
          → List.Forall₂ (Matches related)
              (left.foldl (fun sorted pair => insert pair.1 pair.2 sorted) before)
              (right.foldl (fun sorted pair => insert pair.1 pair.2 sorted) after) := by
    induction h with
    | nil => exact fun _ _ sorted => sorted
    | cons first _ ih =>
        intro before after sorted
        rw [List.foldl_cons, List.foldl_cons, first.key_eq]
        exact ih _ _ (insert_matches first.2 sorted)
  exact all [] [] .nil

end Sorted

namespace Go

variable {σ τ α β γ δ : Type}

-----------------------------------------------------------------------------------------
-- Renderings that end alike
-----------------------------------------------------------------------------------------

/-- Both are successes, or both are one failure, which does not say of itself that it lies in a
case. -/
inductive SameEnd : Except Failure α → Except Failure β → Prop
  | success (value : α) (other : β) : SameEnd (.ok value) (.ok other)
  | failure {failure : Failure} (direct : ¬failure.isInCase)
    : SameEnd (.error failure) (.error failure)

/-- Whatever was mentioned before either of them, two renderings end alike. -/
def Alike (left : Rendering σ α) (right : Rendering τ β) : Prop :=
  ∀ before other, SameEnd (left.run.run before).1 (right.run.run other).1

namespace Alike

/-- Renderings that only yield something end alike. -/
theorem pure {value : α} {other : β}
    : Alike (pure value : Rendering σ α) (pure other : Rendering τ β) :=
  fun _ _ => .success value other

/-- So do those that fail alike, as long as the failure lies in no case. -/
theorem throw {failure : Failure} (direct : ¬failure.isInCase)
    : Alike (throw failure : Rendering σ α) (throw failure : Rendering τ β) :=
  fun _ _ => .failure direct

/-- So do two spellers that write an identifier, as they always succeed. -/
theorem write {speller : Speller σ} {other : Speller τ} {left right : GoIdent}
    : Alike (speller.write left) (other.write right) :=
  fun _ _ => .success _ _

/-- So do two spellers that write a name of some package. -/
theorem writeFrom {speller : Speller σ} {other : Speller τ} {path name : String}
    : Alike (speller.writeFrom path name) (other.writeFrom path name) :=
  write

/-- Renderings that go on alike, whatever was written first. -/
theorem bind {left : Rendering σ α} {right : Rendering τ β} {next : α → Rendering σ γ}
    {rest : β → Rendering τ δ} (hf : Alike left right)
    (hn : ∀ value other, Alike (next value) (rest other))
    : Alike (left >>= next) (right >>= rest) := by
  intro before other
  have ends := hf before other
  rw [ExceptT.run_bind, StateT.run_bind, ExceptT.run_bind, StateT.run_bind]
  revert ends
  rcases left.run.run before with ⟨failure | value, between⟩ <;>
    rcases right.run.run other with ⟨failureToo | valueToo, betweenToo⟩ <;>
    rintro ⟨⟩
  · exact .failure ‹_›
  · exact hn value valueToo between betweenToo

/-- Nothing follows a failure. -/
theorem throw_bind {failure : Failure} {next : α → Rendering σ γ} {rest : β → Rendering τ δ}
    (direct : ¬failure.isInCase)
    : Alike ((MonadExcept.throw failure : Rendering σ α) >>= next)
        ((MonadExcept.throw failure : Rendering τ β) >>= rest) :=
  throw direct

/-- A part of a schema is the same for both. -/
theorem required {field expected : String} {part : Option α} {next : α → Rendering σ γ}
    {rest : α → Rendering τ δ} (hn : ∀ value, Alike (next value) (rest value))
    : Alike (required field expected part >>= next) (required field expected part >>= rest) := by
  cases part with
  | none => exact fun _ _ => .failure Bool.false_ne_true
  | some value => exact hn value

end Alike

-----------------------------------------------------------------------------------------
-- Literals
-----------------------------------------------------------------------------------------

variable {speller : Speller σ} {other : Speller τ}

namespace Alike

/-- The literal of a float or double always succeeds. -/
theorem floatLiteral {format : Binary.Format} {bits : Nat}
    : Alike (floatLiteral speller format bits) (floatLiteral other format bits) := by
  unfold Go.floatLiteral
  split
  · exact .pure
  · exact .bind .writeFrom fun _ _ => .pure
  · exact .bind .writeFrom fun _ _ => .pure

/-- Whether an enum has a literal depends on its member only. -/
theorem enumLiteral {field : FieldSchema} {ordinal : Int32}
    : Alike (enumLiteral speller field ordinal) (enumLiteral other field ordinal) := by
  refine .required fun enum => ?_
  split
  · exact .write
  · exact .throw Bool.false_ne_true

/-- Whether a type has a name depends on the schema of its field only. -/
theorem typeName {field : FieldSchema}
    : Alike (typeName speller field) (typeName other field) := by
  unfold Go.typeName
  split
  · exact .required fun _ => .write
  · exact .required fun _ => .bind .write fun _ _ => .pure
  · exact .required fun _ => .bind .write fun _ _ => .pure
  · exact .pure

/-- A pointer is made of every value. -/
theorem pointed {value : Value} {text textToo : String}
    : Alike (pointed speller value text) (pointed other value textToo) := by
  unfold Go.pointed
  split
  · exact .pure
  · split
    · exact .pure
    · exact .bind .writeFrom fun _ _ => .pure

/-- A field is set to every value that is written. -/
theorem assigned {field : FieldSchema} {value : Value} {text textToo : String}
    : Alike (assigned speller field value text) (assigned other field value textToo) := by
  unfold Go.assigned
  dsimp only
  split
  · exact .bind .pointed fun _ _ => .pure
  · exact .pure

/-- Renderings in a row end alike if they do one by one. -/
theorem inOrder {left : List (Rendering σ String)} {right : List (Rendering τ String)}
    (each : List.Forall₂ Alike left right)
    : Alike (inOrder left) (inOrder right) := by
  induction each with
  | nil => exact .pure
  | cons first _ ih => exact .bind first fun _ _ => .bind ih fun _ _ => .pure

/-- Whether a list has a type depends on its field only. -/
theorem listType {field : FieldSchema}
    : Alike (listType speller field) (listType other field) := by
  unfold Go.listType
  split
  · exact .throw_bind Bool.false_ne_true
  · exact .bind .typeName fun _ _ => .pure

/-- Whether a map has a type depends on the fields of its entries only. -/
theorem mapType {key value : FieldSchema}
    : Alike (mapType speller key value) (mapType other key value) :=
  .bind .typeName fun _ _ => .bind .typeName fun _ _ => .pure

/-- The fields for the entries of a map are the same for both. -/
theorem mapFields {field : FieldSchema} {next : FieldSchema × FieldSchema → Rendering σ α}
    {rest : FieldSchema × FieldSchema → Rendering τ β}
    (hn : ∀ fields, Alike (next fields) (rest fields))
    : Alike (mapFields field >>= next) (mapFields field >>= rest) := by
  unfold Go.mapFields
  simp only [bind_assoc]
  refine .required fun fields => ?_
  split
  · exact .throw_bind Bool.false_ne_true
  · exact hn _

end Alike

mutual
/-- However identifiers are written, a value has a literal or fails to have one for the same reason.
By induction on the value. -/
theorem literal_alike (field : Option FieldSchema)
    : ∀ value : Value, Alike (literal speller field value) (literal other field value)
  | .bool _ => .pure
  | .int32 _ => .pure
  | .int64 _ => .pure
  | .uint32 _ => .pure
  | .uint64 _ => .pure
  | .float32 _ => .floatLiteral
  | .float64 _ => .floatLiteral
  | .string _ => .pure
  | .bytes _ => .pure
  | .enum _ => by
      rw [literal, literal]
      exact .required fun _ => .enumLiteral
  | .message fields => by
      rw [literal, literal]
      refine .required fun field => .required fun schema => ?_
      exact .bind (arguments_alike schema fields) fun _ _ => .bind .write fun _ _ => .pure
  | .list items => by
      rw [literal, literal]
      refine .required fun field => .bind .listType fun _ _ => ?_
      exact .bind (elements_alike field items) fun _ _ => .pure
  | .map entries => by
      rw [literal, literal]
      refine .required fun field => .mapFields fun fields => .bind .mapType fun _ _ => ?_
      have sorted := Sorted.ofList_matches (entryLiterals_alike fields.2 entries)
      refine .bind (.inOrder ?_) fun _ _ => .pure
      rw [List.forall₂_map_left_iff, List.forall₂_map_right_iff]
      exact sorted.imp fun _ _ both => both.2

/-- The fields of a message end alike, one by one. -/
theorem arguments_alike (schema : MessageSchema)
    : ∀ fields : List (UInt32 × Value),
        Alike (arguments speller schema fields) (arguments other schema fields)
  | [] => .pure
  | (number, value) :: rest => by
      rw [arguments, arguments]
      cases schema.fieldNumbered? number with
      | none => exact .throw Bool.false_ne_true
      | some field =>
          refine .bind (literal_alike (some field) value) fun _ _ => .bind .assigned fun _ _ => ?_
          exact .bind (arguments_alike schema rest) fun _ _ => .pure

/-- So do the elements of a list. -/
theorem elements_alike (field : FieldSchema)
    : ∀ items : List Value, Alike (elements speller field items) (elements other field items)
  | [] => .pure
  | value :: rest => by
      rw [elements, elements]
      refine .bind (literal_alike (some field) value) fun _ _ => ?_
      exact .bind (elements_alike field rest) fun _ _ => .pure

/-- So do the entries of a map, under the same keys. -/
theorem entryLiterals_alike (field : FieldSchema)
    : ∀ entries : List (MapKey × Value),
        List.Forall₂ (Sorted.Matches Alike) (entryLiterals speller field entries)
          (entryLiterals other field entries)
  | [] => .nil
  | (key, value) :: rest => by
      rw [entryLiterals, entryLiterals]
      refine .cons ⟨rfl, ?_⟩ (entryLiterals_alike field rest)
      exact .bind (literal_alike (some field) value) fun _ _ => .pure
end

/-- Whether a message has a literal does not depend on the speller or on what was mentioned
before. -/
theorem messageLiteral_alike (schema : MessageSchema) (fields : MessageValue)
    : Alike (messageLiteral speller schema fields) (messageLiteral other schema fields) :=
  .bind (arguments_alike schema fields) fun _ _ => .bind .write fun _ _ => .pure

/-- A literal that fails says nothing of a case. -/
theorem messageLiteral_direct {spell : GoIdent → String} (schema : MessageSchema)
    (fields : MessageValue)
    : FailsDirectly (messageLiteral (.ofFunction spell) schema fields).outcome := by
  have ends
      : SameEnd (messageLiteral (.ofFunction spell) schema fields).outcome
          (messageLiteral (.ofFunction spell) schema fields).outcome :=
    messageLiteral_alike schema fields () ()
  intro failure failed
  rw [failed] at ends
  cases ends with
  | failure direct => exact direct

end Go

end GrpcMock
