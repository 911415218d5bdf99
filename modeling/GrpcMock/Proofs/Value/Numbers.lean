import GrpcMock.Proofs.Payload.Message
import Mathlib.Data.Finset.Card

/-!
What is held by number. A message remembers of all that was ever set in it which numbers came first
and which values came last; of the fields that a schema declares with one number, the last counts.
-/

namespace GrpcMock

-----------------------------------------------------------------------------------------
-- The last pair with a key
-----------------------------------------------------------------------------------------

section Last

variable {κ α : Type}

/-- A pair that comes last hides those with its key and no others. -/
theorem Sorted.isLast_concat {key other : κ} {value held : α} {pairs : List (κ × α)}
    : IsLast key value (pairs ++ [(other, held)])
      ↔ key = other ∧ value = held ∨ key ≠ other ∧ IsLast key value pairs := by
  constructor
  · rintro ⟨before, after, split, absent⟩
    rcases List.eq_nil_or_concat after with rfl | ⟨after, last, rfl⟩
    · obtain ⟨-, same⟩ := List.append_inj' split rfl
      cases same
      exact .inl ⟨rfl, rfl⟩
    · have regrouped : pairs ++ [(other, held)] = (before ++ (key, value) :: after) ++ [last] := by
        simpa using split
      obtain ⟨rfl, same⟩ := List.append_inj' regrouped rfl
      cases same
      simp only [List.concat_eq_append, List.map_append, List.map_cons, List.map_nil,
        List.mem_append, List.mem_singleton, not_or] at absent
      exact .inr ⟨absent.2, before, after, rfl, absent.1⟩
  · rintro (⟨rfl, rfl⟩ | ⟨differs, before, after, rfl, absent⟩)
    · exact ⟨pairs, [], rfl, List.not_mem_nil⟩
    · refine ⟨before, after ++ [(other, held)], by simp, ?_⟩
      rw [List.map_append, List.mem_append, not_or]
      exact ⟨absent, by simpa using differs⟩

end Last

-----------------------------------------------------------------------------------------
-- Messages
-----------------------------------------------------------------------------------------

namespace MessageValue

variable {number : UInt32} {value : Value} {message : MessageValue} {steps : List (UInt32 × Value)}

/-- Setting a field that is set already changes no number. -/
theorem map_fst_set (held : number ∈ message.map Prod.fst)
    : (set number value message).map Prod.fst = message.map Prod.fst := by
  induction message with
  | nil => cases held
  | cons pair rest ih =>
      rw [set]
      split
      · rfl
      · rename_i differs
        have later := (List.mem_cons.mp held).resolve_left (Ne.symm differs)
        rw [List.map_cons, List.map_cons, ih later]

/-- After a field is set, its number is there besides those that were. -/
theorem mem_map_fst_set {other : UInt32}
    : other ∈ (set number value message).map Prod.fst
      ↔ other = number ∨ other ∈ message.map Prod.fst := by
  by_cases held : number ∈ message.map Prod.fst
  · rw [map_fst_set held]
    exact (or_iff_right_of_imp fun same => same ▸ held).symm
  · simp [set_eq_append held, or_comm]

/-- Where numbers are distinct, a field that is set has its new value and the others have theirs. -/
theorem mem_set {other : UInt32} {held : Value} (distinct : (message.map Prod.fst).Nodup)
    : (other, held) ∈ set number value message
      ↔ other = number ∧ held = value ∨ other ≠ number ∧ (other, held) ∈ message := by
  induction message with
  | nil => simp [set]
  | cons pair rest ih =>
      obtain ⟨fresh, others⟩ := List.nodup_cons.mp distinct
      obtain ⟨first, old⟩ := pair
      have later (member : (other, held) ∈ rest) : other ≠ first := by
        rintro rfl
        exact fresh (List.mem_map.mpr ⟨_, member, rfl⟩)
      rw [set]
      split
      · rename_i same
        subst same
        rw [List.mem_cons, List.mem_cons, Prod.mk.injEq, Prod.mk.injEq]
        refine or_congr_right ⟨fun member => ⟨later member, .inr member⟩, ?_⟩
        rintro ⟨differs, head | member⟩
        · exact absurd head.1 differs
        · exact member
      · rename_i differs
        rw [List.mem_cons, List.mem_cons, Prod.mk.injEq, ih others]
        constructor
        · rintro (⟨rfl, rfl⟩ | new | ⟨apart, member⟩)
          · exact .inr ⟨differs, .inl ⟨rfl, rfl⟩⟩
          · exact .inl new
          · exact .inr ⟨apart, .inr member⟩
        · rintro (new | ⟨apart, head | member⟩)
          · exact .inr (.inl new)
          · exact .inl head
          · exact .inr (.inr ⟨apart, member⟩)

/-- A number has the value that it is listed with. -/
theorem get?_eq_some (distinct : (message.map Prod.fst).Nodup)
    : get? number message = some value ↔ (number, value) ∈ message := by
  induction message with
  | nil => simp [get?]
  | cons pair rest ih =>
      obtain ⟨fresh, others⟩ := List.nodup_cons.mp distinct
      obtain ⟨first, held⟩ := pair
      rw [get?, List.mem_cons, Prod.mk.injEq]
      split
      · rename_i same
        subst same
        have gone : (first, value) ∉ rest := fun member =>
          fresh (List.mem_map.mpr ⟨_, member, rfl⟩)
        simp [gone, eq_comm]
      · rename_i differs
        rw [ih others]
        exact (or_iff_right fun head => differs head.1.symm).symm

/-- The message after some fields were set one after the other. -/
def ofSteps (steps : List (UInt32 × Value)) : MessageValue :=
  steps.foldl (fun message step => set step.1 step.2 message) []

/-- A message lists every number that was ever set, in the order in which each was set first, with
the value that it was set to last. -/
structure Records (steps : List (UInt32 × Value)) (message : MessageValue) : Prop where
  numbers : ∀ number, number ∈ message.map Prod.fst ↔ number ∈ steps.map Prod.fst
  order
    : (message.map Prod.fst).Pairwise fun earlier later =>
        (steps.map Prod.fst).idxOf earlier < (steps.map Prod.fst).idxOf later
  latest
    : ∀ number value, (number, value) ∈ message ↔ Sorted.IsLast number value steps

/-- No number is set for the first time twice. -/
theorem Records.nodup (h : Records steps message) : (message.map Prod.fst).Nodup := by
  refine h.order.imp ?_
  rintro earlier _ before rfl
  exact Nat.lt_irrefl _ before

/-- Of all the steps, setting one more field leaves the first of each number where it was. -/
theorem Records.order_set (h : Records steps message) (number : UInt32) (value : Value)
    : ((set number value message).map Prod.fst).Pairwise fun earlier later =>
        (steps.map Prod.fst ++ [number]).idxOf earlier
          < (steps.map Prod.fst ++ [number]).idxOf later := by
  have place {other : UInt32} (listed : other ∈ message.map Prod.fst)
      : (steps.map Prod.fst ++ [number]).idxOf other = (steps.map Prod.fst).idxOf other :=
    List.idxOf_append_of_mem ((h.numbers other).mp listed)
  have kept
      : (message.map Prod.fst).Pairwise fun earlier later =>
          (steps.map Prod.fst ++ [number]).idxOf earlier
            < (steps.map Prod.fst ++ [number]).idxOf later :=
    h.order.imp_of_mem fun listed listedToo before => by rwa [place listed, place listedToo]
  by_cases held : number ∈ message.map Prod.fst
  · rwa [map_fst_set held]
  · have new : number ∉ steps.map Prod.fst := fun set => held ((h.numbers number).mpr set)
    have atEnd
        : (steps.map Prod.fst ++ [number]).idxOf number = (steps.map Prod.fst).length := by
      simp [List.idxOf_append_of_notMem new]
    rw [set_eq_append held, List.map_append]
    refine List.pairwise_append.mpr ⟨kept, List.pairwise_singleton _ _, ?_⟩
    intro earlier listed later last
    obtain rfl : later = number := by simpa using last
    rw [place listed, atEnd]
    exact List.idxOf_lt_length_of_mem ((h.numbers earlier).mp listed)

/-- What a message records stays true when one more field is set. -/
theorem Records.set (h : Records steps message) (number : UInt32) (value : Value)
    : Records (steps ++ [(number, value)]) (set number value message) where
  numbers other := by
    rw [mem_map_fst_set, h.numbers, List.map_append, List.mem_append, List.map_singleton,
      List.mem_singleton, or_comm]
  order := by
    rw [List.map_append, List.map_singleton]
    exact h.order_set number value
  latest other held := by
    rw [mem_set h.nodup, Sorted.isLast_concat, h.latest]

/-- By induction on the steps, from the first to the last. -/
theorem records_ofSteps (steps : List (UInt32 × Value)) : Records steps (ofSteps steps) := by
  induction steps using List.reverseRecOn with
  | nil => exact ⟨fun _ => Iff.rfl, .nil, fun _ _ => by simp [ofSteps, Sorted.IsLast]⟩
  | append_singleton steps step ih =>
      have last : ofSteps (steps ++ [step]) = MessageValue.set step.1 step.2 (ofSteps steps) := by
        rw [ofSteps, List.foldl_append]
        rfl
      rw [last]
      exact ih.set step.1 step.2

/-- A field that is set again keeps its place. -/
example
    : ofSteps [(2, .bool true), (1, .bool false), (2, .int32 5)]
      = [(2, .int32 5), (1, .bool false)] :=
  rfl

/-- A message is as long as there are numbers that were set. -/
theorem Records.length_eq (h : Records steps message)
    : message.length = (steps.map Prod.fst).toFinset.card := by
  have same : (message.map Prod.fst).toFinset = (steps.map Prod.fst).toFinset := by
    ext number
    rw [List.mem_toFinset, List.mem_toFinset, h.numbers]
  rw [← same, List.toFinset_card_of_nodup h.nodup, List.length_map]

end MessageValue

-----------------------------------------------------------------------------------------
-- Fields of a schema
-----------------------------------------------------------------------------------------

/-- Fields by their numbers, entered one after the other. -/
def FieldSchema.index (fields : List FieldSchema) : Std.HashMap UInt32 FieldSchema :=
  fields.foldl (fun index field => index.insert field.number field) ∅

namespace MessageSchema

variable {schema : MessageSchema} {number : UInt32} {field : FieldSchema}

/-- The last field of a list takes its number from those before it. -/
theorem index_concat (fields : List FieldSchema) (field : FieldSchema)
    : FieldSchema.index (fields ++ [field])
      = (FieldSchema.index fields).insert field.number field := by
  rw [FieldSchema.index, List.foldl_append]
  rfl

/-- An index gives the last field with a number. -/
theorem getElem?_index (fields : List FieldSchema) (number : UInt32)
    : (FieldSchema.index fields)[number]?
      = fields.reverse.find? fun field => field.number == number := by
  induction fields using List.reverseRecOn with
  | nil => simp [FieldSchema.index]
  | append_singleton fields last ih =>
      rw [index_concat, Std.HashMap.getElem?_insert, List.reverse_append, List.reverse_singleton,
        List.singleton_append, List.find?_cons, ih]
      cases last.number == number <;> rfl

/-- An index has an entry for every number. -/
theorem size_index (fields : List FieldSchema)
    : (FieldSchema.index fields).size = (fields.map (·.number)).toFinset.card := by
  induction fields using List.reverseRecOn with
  | nil => simp [FieldSchema.index]
  | append_singleton fields last ih =>
      have entered
          : last.number ∈ FieldSchema.index fields
            ↔ last.number ∈ (fields.map (·.number)).toFinset := by
        rw [Std.HashMap.mem_iff_isSome_getElem?, getElem?_index]
        simp
      rw [index_concat, Std.HashMap.size_insert, ih, List.map_append, List.toFinset_append,
        List.map_singleton, List.toFinset_cons, List.toFinset_nil, Finset.union_comm,
        Finset.insert_union, Finset.empty_union, Finset.card_insert_eq_ite]
      exact if_congr entered rfl rfl

/-- A field is found by its number if no later one has the same. -/
theorem fieldNumbered?_eq_some
    : schema.fieldNumbered? number = some field
      ↔ Sorted.IsLast number field (schema.fields.map fun field => (field.number, field)) := by
  unfold fieldNumbered?
  induction schema.fields using List.reverseRecOn with
  | nil => simp [Sorted.IsLast]
  | append_singleton fields last ih =>
      rw [List.map_append, List.map_singleton, Sorted.isLast_concat, ← ih, List.reverse_append,
        List.reverse_singleton, List.singleton_append, List.find?_cons]
      by_cases same : last.number = number
      · simp [same, eq_comm]
      · simp [beq_false_of_ne same, Ne.symm same]

/-- Each number counts once, however many fields have it. -/
theorem length_numbers (schema : MessageSchema)
    : schema.numbers.length = (schema.fields.map (·.number)).toFinset.card := by
  unfold numbers
  induction schema.fields.map (·.number) using List.reverseRecOn with
  | nil => rfl
  | append_singleton numbers last ih =>
      rw [List.eraseDups_append, List.length_append, ih, List.toFinset_append, Finset.union_comm]
      by_cases listed : last ∈ numbers
      · simp [List.removeAll, listed]
      · simp [List.removeAll, listed, List.eraseDups_cons]

end MessageSchema

-----------------------------------------------------------------------------------------
-- Both
-----------------------------------------------------------------------------------------

/-- Messages list each number that was ever set once, in the order of first setting, with its latest
value, and have that value for it; an index of fields has the last field with a number for it, and
an entry for every number. -/
theorem held_by_number
    : (∀ steps,
        MessageValue.Records steps (.ofSteps steps)
        ∧ ((MessageValue.ofSteps steps).map Prod.fst).Nodup
        ∧ (∀ number value,
            (MessageValue.ofSteps steps).get? number = some value
              ↔ (number, value) ∈ MessageValue.ofSteps steps)
        ∧ (MessageValue.ofSteps steps).length = (steps.map Prod.fst).toFinset.card)
      ∧ ∀ schema : MessageSchema,
          (∀ number field,
            schema.fieldNumbered? number = some field
              ↔ Sorted.IsLast number field (schema.fields.map fun field => (field.number, field)))
          ∧ schema.numbers.length = (schema.fields.map (·.number)).toFinset.card
          ∧ (∀ number, (FieldSchema.index schema.fields)[number]? = schema.fieldNumbered? number)
          ∧ (FieldSchema.index schema.fields).size = schema.numbers.length := by
  constructor
  · intro steps
    have records := MessageValue.records_ofSteps steps
    exact ⟨records, records.nodup, fun number value => MessageValue.get?_eq_some records.nodup,
      records.length_eq⟩
  · intro schema
    refine ⟨fun number field => MessageSchema.fieldNumbered?_eq_some, schema.length_numbers,
      MessageSchema.getElem?_index schema.fields, ?_⟩
    rw [MessageSchema.size_index, schema.length_numbers]

end GrpcMock
