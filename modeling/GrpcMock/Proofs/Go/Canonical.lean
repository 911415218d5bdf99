import GrpcMock.Proofs.Go.Determined

/-!
Literals do not depend on how maps were put together. A map comes with its entries in any order, and
what is written of it, what is mentioned on the way and how it fails are the same for all orders.
-/

namespace GrpcMock.Go

variable {σ : Type} {speller : Speller σ}

-----------------------------------------------------------------------------------------
-- Entries in another order
-----------------------------------------------------------------------------------------

mutual
/-- Values that differ at most in the order of the entries of their maps, at any depth. -/
inductive Rearranged : Value → Value → Prop
  | same (value : Value) : Rearranged value value
  | message {left right : MessageValue} (fields : RearrangedPairs left right)
    : Rearranged (.message left) (.message right)
  | list {left right : List Value} (items : RearrangedItems left right)
    : Rearranged (.list left) (.list right)
  | map {left moved right : MapValue} (distinct : (left.map Prod.fst).Nodup)
    (order : left.Perm moved) (values : RearrangedPairs moved right)
    : Rearranged (.map left) (.map right)

inductive RearrangedItems : List Value → List Value → Prop
  | nil : RearrangedItems [] []
  | cons {first other : Value} {rest others : List Value} (head : Rearranged first other)
    (tail : RearrangedItems rest others)
    : RearrangedItems (first :: rest) (other :: others)

/-- Values under the same keys. -/
inductive RearrangedPairs : {κ : Type} → List (κ × Value) → List (κ × Value) → Prop
  | nil {κ : Type} : RearrangedPairs ([] : List (κ × Value)) []
  | cons {κ : Type} {key : κ} {value other : Value} {rest others : List (κ × Value)}
    (head : Rearranged value other) (tail : RearrangedPairs rest others)
    : RearrangedPairs ((key, value) :: rest) ((key, other) :: others)
end

/-- Pairs that stay as they are are rearranged. -/
theorem RearrangedPairs.same {κ : Type} (pairs : List (κ × Value))
    : RearrangedPairs pairs pairs := by
  induction pairs with
  | nil => exact .nil
  | cons first rest ih => exact .cons (.same first.2) ih

/-- A map is the same map after its entries are inserted in another order. -/
theorem Rearranged.inserted {entries : MapValue} (distinct : (entries.map Prod.fst).Nodup)
    : Rearranged (.map entries)
        (.map (entries.foldl (fun map entry => MapValue.insert entry.1 entry.2 map) [])) :=
  .map distinct (Sorted.ofList_perm distinct).symm (.same _)

/-- A rearranged value is of the same type. -/
theorem Rearranged.kindName_eq {left right : Value} (h : Rearranged left right)
    : left.kindName = right.kindName := by
  cases h <;> rfl

-----------------------------------------------------------------------------------------
-- Renderings of rearranged values
-----------------------------------------------------------------------------------------

/-- What a field is set to depends on the value by its type and its text only. -/
theorem assigned_congr {field : FieldSchema} {left right : Value}
    (alike : left.kindName = right.kindName) (text : String)
    : assigned speller field left text = assigned speller field right text := by
  cases Value.SameKind.of_kindName alike <;> rfl

/-- Renderings of entries are put in one order, in whatever order the entries are. -/
theorem ofList_entryLiterals {field : FieldSchema} {left right : MapValue}
    (distinct : (left.map Prod.fst).Nodup) (order : left.Perm right)
    : Sorted.ofList (entryLiterals speller field left)
      = Sorted.ofList (entryLiterals speller field right) := by
  have keys (entries : MapValue)
      : (entryLiterals speller field entries).map Prod.fst = entries.map Prod.fst := by
    rw [entryLiterals_eq, List.map_map]
    rfl
  have moved : (entryLiterals speller field left).Perm (entryLiterals speller field right) := by
    rw [entryLiterals_eq, entryLiterals_eq]
    exact order.map _
  have distinctToo : ((entryLiterals speller field right).map Prod.fst).Nodup := by
    rw [keys]
    exact ((order.map Prod.fst).nodup_iff).mp distinct
  exact Sorted.ofList_eq_of_perm (Sorted.ofList_ascending _)
    (moved.trans (Sorted.ofList_perm distinctToo).symm)

mutual
/-- By induction on the value that comes of the rearrangement. -/
theorem literal_rearranged (field : Option FieldSchema) {left right : Value}
    : Rearranged left right → literal speller field left = literal speller field right
  | .same _ => rfl
  | .message fields => by
      simp only [literal, arguments_rearranged _ fields]
  | .list items => by
      simp only [literal, elements_rearranged _ items]
  | .map distinct order values => by
      simp only [literal, ofList_entryLiterals distinct order, entryLiterals_rearranged _ values]
termination_by sizeOf right

/-- The fields of a rearranged message are written alike. -/
theorem arguments_rearranged (schema : MessageSchema) {left right : MessageValue}
    : RearrangedPairs left right → arguments speller schema left = arguments speller schema right
  | .nil => rfl
  | .cons head tail => by
      simp only [arguments, literal_rearranged _ head, assigned_congr head.kindName_eq,
        arguments_rearranged schema tail]
termination_by sizeOf right

/-- So are the elements of a rearranged list. -/
theorem elements_rearranged (field : FieldSchema) {left right : List Value}
    : RearrangedItems left right → elements speller field left = elements speller field right
  | .nil => rfl
  | .cons head tail => by
      simp only [elements, literal_rearranged _ head, addressed_congr head.kindName_eq,
        elements_rearranged field tail]
termination_by sizeOf right

/-- So are the entries of a rearranged map, before they are put in order. -/
theorem entryLiterals_rearranged (field : FieldSchema) {left right : MapValue}
    : RearrangedPairs left right
      → entryLiterals speller field left = entryLiterals speller field right
  | .nil => rfl
  | .cons head tail => by
      simp only [entryLiterals, literal_rearranged _ head, addressed_congr head.kindName_eq,
        entryLiterals_rearranged field tail]
termination_by sizeOf right
end

-----------------------------------------------------------------------------------------
-- The entries of a map
-----------------------------------------------------------------------------------------

/-- The entries of a map written one after the other, from what was mentioned before them to what is
mentioned after them. -/
inductive EntriesWritten (speller : Speller σ) (field : FieldSchema)
    : MapValue → List String → σ → σ → Prop
  | nil (state : σ) : EntriesWritten speller field [] [] state state
  | cons {key : MapKey} {value : Value} {rest : MapValue} {text : String} {parts : List String}
    {before between after : σ}
    (head : (literal speller (some field) value).run.run before = (.ok text, between))
    (tail : EntriesWritten speller field rest parts between after)
    : EntriesWritten speller field ((key, value) :: rest)
        ((keyLiteral key ++ ": " ++ addressed value text) :: parts) before after

/-- Entries that are rendered in order are written one after the other. -/
theorem entriesWritten_of_inOrder {field : FieldSchema} {entries : MapValue} {parts : List String}
    {before after : σ}
    (run : (inOrder ((entryLiterals speller field entries).map Prod.snd)).run.run before
      = (.ok parts, after))
    : EntriesWritten speller field entries parts before after := by
  induction entries generalizing parts before with
  | nil =>
      cases run
      exact .nil _
  | cons first rest ih =>
      simp only [entryLiterals, List.map_cons, inOrder, Rendering.run_bind_eq_ok,
        Rendering.run_pure_eq_ok] at run
      obtain ⟨_, _, ⟨text, _, head, rfl, rfl⟩, _, _, tail, rfl, rfl⟩ := run
      exact .cons head (ih tail)

/-- The fields of entries are found without a mention. -/
theorem run_mapFields {field key value : FieldSchema} {before after : σ}
    (run : (mapFields field : Rendering σ _).run.run before = (.ok (key, value), after))
    : field.entryFields? = some (key, value) ∧ before = after := by
  simp only [mapFields, Rendering.run_bind_eq_ok, Rendering.run_required_eq_ok] at run
  obtain ⟨_, _, ⟨found, rfl⟩, run⟩ := run
  split at run
  · obtain ⟨_, _, ⟨⟩, _⟩ := run
  · cases run
    exact ⟨found, rfl⟩

/-- The literal of a map holds its entries in the order of their keys. -/
theorem entriesWritten_of_literal {field : Option FieldSchema} {entries : MapValue} {text : String}
    {before after : σ} (distinct : (entries.map Prod.fst).Nodup)
    (run : (literal speller field (.map entries)).run.run before = (.ok text, after))
    : ∃ schema key value type parts between,
        field = some schema
        ∧ schema.entryFields? = some (key, value)
        ∧ (mapType speller key value).run.run before = (.ok type, between)
        ∧ EntriesWritten speller value (Sorted.ofList entries) parts between after
        ∧ text = composite type parts := by
  simp only [literal, Rendering.run_bind_eq_ok, Rendering.run_required_eq_ok] at run
  obtain ⟨schema, _, ⟨rfl, rfl⟩, ⟨key, value⟩, _, entry, run⟩ := run
  obtain ⟨type, between, typed, parts, _, each, rest⟩ := run
  obtain ⟨found, rfl⟩ := run_mapFields entry
  cases rest
  rw [ofList_entryLiterals distinct (Sorted.ofList_perm distinct).symm,
    ofList_entryLiterals_of_ascending (Sorted.ofList_ascending entries)] at each
  exact ⟨schema, key, value, type, parts, between, rfl, found, typed,
    entriesWritten_of_inOrder each, rfl⟩

/-- What is written of a value does not depend on the order in which its maps were filled, at any
depth: the text or the failure is the same, and so is what the file mentions afterwards. A map that
has a literal is written entry by entry, each once, in the order of the keys. -/
theorem literal_canonical (speller : Speller σ) (field : Option FieldSchema) (before : σ)
    : (∀ left right, Rearranged left right
        → (literal speller field left).run.run before
          = (literal speller field right).run.run before)
      ∧ ∀ entries text after, (entries.map Prod.fst).Nodup
          → (literal speller field (.map entries)).run.run before = (.ok text, after)
          → ∃ schema key value type sorted parts between,
              field = some schema
              ∧ schema.entryFields? = some (key, value)
              ∧ (mapType speller key value).run.run before = (.ok type, between)
              ∧ sorted.Perm entries
              ∧ Sorted.Ascending sorted
              ∧ EntriesWritten speller value sorted parts between after
              ∧ text = composite type parts := by
  refine ⟨fun left right same => ?_, fun entries text after distinct run => ?_⟩
  · rw [literal_rearranged field same]
  · obtain ⟨schema, key, value, type, parts, between, given, found, typed, each, written⟩ :=
      entriesWritten_of_literal distinct run
    exact ⟨schema, key, value, type, _, parts, between, given, found, typed,
      Sorted.ofList_perm distinct, Sorted.ofList_ascending entries, each, written⟩

/-- The literal of the items of a parcel in a file of the package that declares them. -/
def parcelItemsText : String :=
  "map[int32]*Parcel_Item\x7b-3: &Parcel_Item\x7b\x7d, "
    ++ "7: &Parcel_Item\x7bPriceCents: proto.Int64(1250), Code: []byte\x7b0x01, 0x02\x7d\x7d\x7d"

/-- The items of a parcel, put in from the last to the first. The item at a price imports the
package of its pointer. -/
theorem literal_canonical_parcel
    : Rearranged (.map parcelItems.reverse) (.map parcelItems)
      ∧ (parcelItems.reverse.map Prod.fst).Nodup
      ∧ (literal .imports (some itemsField) (.map parcelItems)).run.run (.empty "")
        = (.ok parcelItemsText, ⟨"", [(protoPath, "proto")]⟩)
      ∧ (literal .imports (some itemsField) (.map parcelItems.reverse)).run.run (.empty "")
        = (literal .imports (some itemsField) (.map parcelItems)).run.run (.empty "")
      ∧ ∃ value sorted parts between,
          sorted.Perm parcelItems.reverse
          ∧ Sorted.Ascending sorted
          ∧ EntriesWritten .imports value sorted parts between ⟨"", [(protoPath, "proto")]⟩ := by
  have distinct : (parcelItems.reverse.map Prod.fst).Nodup := by decide
  have moved : Rearranged (.map parcelItems.reverse) (.map parcelItems) := .inserted distinct
  have written
      : (literal .imports (some itemsField) (.map parcelItems)).run.run (.empty "")
        = (.ok parcelItemsText, ⟨"", [(protoPath, "proto")]⟩) :=
    Prod.ext (toOption_eq_some.mp (by decide +kernel)) (by decide +kernel)
  have canonical := literal_canonical .imports (some itemsField) (.empty "")
  have same := canonical.1 _ _ moved
  obtain ⟨_, _, value, _, sorted, parts, between, _, _, _, order, ascending, each, _⟩ :=
    canonical.2 _ _ _ distinct (same.trans written)
  exact ⟨moved, distinct, written, same, value, sorted, parts, between, order, ascending, each⟩

end GrpcMock.Go
