import GrpcMock.Outcome
import GrpcMock.Proofs.Json.Tokens
import GrpcMock.Proofs.Sorted

/-!
Pretty JSON text is read back. The tokens of a value fill the place of the innermost array or object
that is open, and nothing else changes, so a value inside others is read as it is read alone.
-/

namespace GrpcMock.Json

-----------------------------------------------------------------------------------------
-- Values as they are read
-----------------------------------------------------------------------------------------

mutual
/-- The document that the text of a value is. -/
def asDocument : Json → Document
  | .null => .leaf .null
  | .bool value => .leaf (.bool value)
  | .number value => .leaf (.number value)
  | .string value => .text value (some (.string value))
  | .array items => .list true (itemDocuments items) true
  | .object members => .table (memberDocuments members) true

def itemDocuments : List Json → List Document
  | [] => []
  | item :: rest => asDocument item :: itemDocuments rest

def memberDocuments : List (String × Json) → List (Option String × Document)
  | [] => []
  | (name, value) :: rest => (some name, asDocument value) :: memberDocuments rest
end

mutual
/-- A value with the members of its objects in the order of their names, each name once. -/
def sorted : Json → Json
  | .null => .null
  | .bool value => .bool value
  | .number value => .number value
  | .string value => .string value
  | .array items => .array (sortedItems items)
  | .object members => .object (Sorted.ofList (sortedMembers members))

def sortedItems : List Json → List Json
  | [] => []
  | item :: rest => sorted item :: sortedItems rest

def sortedMembers : List (String × Json) → List (String × Json)
  | [] => []
  | (name, value) :: rest => (name, sorted value) :: sortedMembers rest
end

/-- The documents of the items of an array are those of each item. -/
theorem itemDocuments_eq_map (items : List Json) : itemDocuments items = items.map asDocument := by
  induction items with
  | nil => rfl
  | cons item rest ih => rw [itemDocuments, ih, List.map_cons]

/-- The documents of the members of an object are those of each member, by name. -/
theorem memberDocuments_eq_map (members : List (String × Json))
    : memberDocuments members
      = members.map fun member => (some member.1, asDocument member.2) := by
  induction members with
  | nil => rfl
  | cons member rest ih => rw [memberDocuments, ih, List.map_cons]

/-- Items are sorted each for itself. -/
theorem sortedItems_eq_map (items : List Json) : sortedItems items = items.map sorted := by
  induction items with
  | nil => rfl
  | cons item rest ih => rw [sortedItems, ih, List.map_cons]

/-- So are the values of members. -/
theorem sortedMembers_eq_map (members : List (String × Json))
    : sortedMembers members = members.map fun member => (member.1, sorted member.2) := by
  induction members with
  | nil => rfl
  | cons member rest ih => rw [sortedMembers, ih, List.map_cons]

-----------------------------------------------------------------------------------------
-- Runs over the tokens of a value
-----------------------------------------------------------------------------------------

/-- A run goes on from where a token leads. -/
theorem run_step {complete : Bool} {token : Token} {rest : List Token}
    {state next : List Frame × Mode} (h : step token state = some next)
    : run complete (token :: rest) state = run complete rest next := by
  obtain ⟨frames, mode⟩ := state
  cases mode <;> simp_all [run, step]

/-- Tokens are taken where a value may come, and leave behind a document in its place. -/
def Fills (room : Nat) (tokens : List Token) (document : Document) : Prop :=
  ∀ {frames mode complete more},
    frames.length + room ≤ depthLimit
    → mode = .value ∨ mode = .firstItem
    → run complete (tokens ++ more) (frames, mode) = run complete more (place document frames)

/-- A value without parts fills the place by itself. -/
theorem fills_leaf {room : Nat} (value : Json) : Fills room [.leaf value] (.leaf value) := by
  rintro _ _ _ _ - (rfl | rfl)
  · exact run_step rfl
  · exact run_step rfl

/-- So does a text. -/
theorem fills_string {room : Nat} (text : String)
    : Fills room [.string (some text)] (.text text (some (.string text))) := by
  rintro _ _ _ _ - (rfl | rfl)
  · exact run_step rfl
  · exact run_step rfl

/-- Parts with commas between them are taken one after the other, by induction on how many there
are. The last one is held first. -/
theorem run_commas {α β : Type} {complete : Bool} {group : α → List Token} {made : α → β}
    {first again mode : Mode} {items : List α} (hold : List β → List Frame) (held : List β)
    (comma : ∀ held, step .comma (hold held, .next) = some (hold held, again))
    (each : ∀ item ∈ items, ∀ {held mode more},
      mode = again ∨ mode = first
      → run complete (group item ++ more) (hold held, mode)
        = run complete more (hold (made item :: held), .next))
    (full : items ≠ []) (starts : mode = again ∨ mode = first) (more : List Token)
    : run complete ([.comma].intercalate (items.map group) ++ more) (hold held, mode)
      = run complete more (hold ((items.map made).reverse ++ held), .next) := by
  induction items generalizing held mode with
  | nil => exact absurd rfl full
  | cons item rest ih =>
      obtain ⟨here, later⟩ := List.forall_mem_cons.mp each
      cases rest with
      | nil =>
          rw [List.map_singleton, List.intercalate_singleton, here starts]
          rfl
      | cons next others =>
          have left := ih (made item :: held) later (List.cons_ne_nil next others) (.inl rfl)
          have all
              : ((item :: next :: others).map made).reverse ++ held
                = ((next :: others).map made).reverse ++ made item :: held := by
            simp
          rw [all, ← left, List.map_cons, List.map_cons, List.intercalate_cons_cons,
            List.append_assoc, List.append_assoc, here starts, List.singleton_append,
            run_step (comma _)]

/-- What is closed takes its place if not too much was open. -/
theorem close_eq_place {document : Document} {below : List Frame}
    (shallow : below.length < depthLimit)
    : close document below = place document below := by
  rw [close, if_pos shallow]

/-- An array fills the place if its items fill those in it, one level further in. -/
theorem fills_array {room : Nat} {items : List Json}
    (each : ∀ item ∈ items, Fills room (tokensOf item) (asDocument item))
    : Fills (room + 1) (tokensOf (.array items)) (asDocument (.array items)) := by
  intro frames mode complete more shallow awaits
  have opened : step .openArray (frames, mode) = some (.array [] :: frames, .firstItem) := by
    rcases awaits with rfl | rfl <;> rfl
  rw [tokensOf, asDocument, itemTokens_eq_map, itemDocuments_eq_map, List.cons_append,
    run_step opened, List.append_assoc, ← close_eq_place (by omega)]
  by_cases empty : items = []
  · subst empty
    exact run_step rfl
  · have deeper : ∀ held, (Frame.array held :: frames).length + room ≤ depthLimit := by
      intro held
      rw [List.length_cons]
      omega
    rw [run_commas (fun held => .array held :: frames) [] (fun _ => rfl)
      (fun item member held _ _ starts => each item member (deeper held) starts) empty (.inr rfl),
      List.append_nil, List.singleton_append, run_step rfl, List.reverse_reverse]

/-- So does an object if the values of its members do. -/
theorem fills_object {room : Nat} {members : List (String × Json)}
    (each : ∀ member ∈ members, Fills room (tokensOf member.2) (asDocument member.2))
    : Fills (room + 1) (tokensOf (.object members)) (asDocument (.object members)) := by
  intro frames mode complete more shallow awaits
  have opened
      : step .openObject (frames, mode) = some (.object [] none :: frames, .firstMember) := by
    rcases awaits with rfl | rfl <;> rfl
  rw [tokensOf, asDocument, memberTokens_eq_map, memberDocuments_eq_map, List.cons_append,
    run_step opened, List.append_assoc, ← close_eq_place (by omega)]
  by_cases empty : members = []
  · subst empty
    exact run_step rfl
  · have deeper : ∀ held awaiting,
        (Frame.object held awaiting :: frames).length + room ≤ depthLimit := by
      intro held awaiting
      rw [List.length_cons]
      omega
    rw [run_commas (fun held => .object held none :: frames) [] (fun _ => rfl) ?_ empty (.inr rfl),
      List.append_nil, List.singleton_append, run_step rfl, List.reverse_reverse]
    intro member inside held mode more starts
    have named
        : step (.string (some member.1)) (.object held none :: frames, mode)
          = some (.object held (some (some member.1)) :: frames, .colon) := by
      rcases starts with rfl | rfl <;> rfl
    rw [List.cons_append, List.cons_append, run_step named, run_step rfl,
      each member inside (deeper held _) (.inl rfl)]
    rfl

/-- A value fills its place, by induction on what it is made of. -/
theorem Readable.fills {room : Nat} {value : Json} (readable : Readable room value)
    : Fills room (tokensOf value) (asDocument value) := by
  induction readable with
  | null =>
      rw [tokensOf, asDocument]
      exact fills_leaf _
  | bool =>
      rw [tokensOf, asDocument]
      exact fills_leaf _
  | integer =>
      rw [tokensOf, asDocument]
      exact fills_leaf _
  | string =>
      rw [tokensOf, asDocument]
      exact fills_string _
  | array _ ih => exact fills_array ih
  | object _ ih => exact fills_object ih

/-- A text that is written is read as the document of what it was written for. -/
theorem ofText_pretty {value : Json} (readable : Readable depthLimit value)
    : Reading.ofText (pretty value) = ⟨asDocument value, true⟩ := by
  have ran
      : run true (tokensOf value ++ []) ([], .value)
        = run true [] (place (asDocument value) []) :=
    readable.fills (Nat.le_of_eq (Nat.zero_add _)) (.inl rfl)
  rw [List.append_nil] at ran
  rw [Reading.ofText, tokens_pretty readable]
  exact ran

-----------------------------------------------------------------------------------------
-- What is read
-----------------------------------------------------------------------------------------

mutual
/-- The payload of the document for a value is the value with its members sorted. -/
theorem payload_asDocument : ∀ value : Json, (asDocument value).payload = .ok value.sorted
  | .null | .bool _ | .number _ => by rw [asDocument, sorted, Document.payload]
  | .string _ => by
      rw [asDocument, sorted, Document.payload]
      rfl
  | .array items => by
      rw [asDocument, sorted, Document.payload, payloads_itemDocuments items]
      rfl
  | .object members => by
      rw [asDocument, sorted, Document.payload, payloadMembers_memberDocuments members]
      rfl

/-- So are the payloads of the items of an array. -/
theorem payloads_itemDocuments
    : ∀ items : List Json, Document.payloads (itemDocuments items) = .ok (sortedItems items)
  | [] => by rw [itemDocuments, sortedItems, Document.payloads]
  | item :: rest => by
      rw [itemDocuments, sortedItems, Document.payloads, payload_asDocument item,
        payloads_itemDocuments rest]
      rfl

/-- So are those of the members of an object. -/
theorem payloadMembers_memberDocuments
    : ∀ members : List (String × Json),
        Document.payloadMembers (memberDocuments members) = .ok (sortedMembers members)
  | [] => by rw [memberDocuments, sortedMembers, Document.payloadMembers]
  | (name, value) :: rest => by
      rw [memberDocuments, sortedMembers, Document.payloadMembers, payload_asDocument value,
        payloadMembers_memberDocuments rest]
      rfl
end

/-- A value is read back from its text, its objects in order. -/
theorem read?_pretty {value : Json} (readable : Readable depthLimit value)
    : read? (pretty value) = some value.sorted := by
  rw [read?, readTyped, ofText_pretty readable, payload_asDocument]
  rfl

-----------------------------------------------------------------------------------------
-- Members
-----------------------------------------------------------------------------------------

/-- The member of an object with a name. -/
def member? (name : String) : Json → Option Json
  | .object members => Sorted.find? name members
  | _ => none

/-- Where names are distinct, sorting leaves each member where it is found. -/
theorem member?_sorted (name : String) {members : List (String × Json)}
    (distinct : (members.map Prod.fst).Nodup)
    : member? name (sorted (.object members)) = (Sorted.find? name members).map sorted := by
  rw [sorted, sortedMembers_eq_map]
  have keys
      : (members.map fun member => (member.1, sorted member.2)).map Prod.fst
        = members.map Prod.fst := by
    rw [List.map_map]
    rfl
  have kept := Sorted.ofList_perm (keys ▸ distinct)
  have distinctToo := ((kept.map Prod.fst).nodup_iff).mpr (keys ▸ distinct)
  cases found : Sorted.find? name members with
  | some value =>
      have inside := List.mem_map_of_mem (f := fun member => (member.1, sorted member.2))
        (Sorted.mem_of_find? found)
      exact Sorted.find?_of_mem distinctToo (kept.mem_iff.mpr inside)
  | none =>
      refine Sorted.find?_eq_none.mpr fun there => Sorted.find?_eq_none.mp found ?_
      exact keys ▸ ((kept.map Prod.fst).mem_iff.mp there)

end GrpcMock.Json
