import GrpcMock.Proofs.Proto.Companions
import GrpcMock.Proofs.Proto.Names

/-!
How the definitions of a file are arranged once it is read. A message comes before everything that
stands in it, and the messages that belong to map fields and groups are in the same list, however
often a name is repeated.
-/

namespace GrpcMock.Proto

/-- How many of some fields are maps. -/
def mapCount (fields : List Field) : Nat :=
  fields.countP fun field => field.label = .map

/-- A message for the entries of a map: a key with the number one and a value with the number two.
-/
structure Definition.IsEntry (definition : Definition) : Prop where
  kind : definition.kind = .message
  marked : definition.isMapEntry
  fields
    : definition.fields.map (fun field => (field.name, field.label, field.number))
      = [("key", .singular, 1), ("value", .singular, 2)]

/-- What holds of the definitions of every file: where they come in the list, and what their fields
are. -/
structure Arranged (definitions : List Definition) : Prop where
  preceded
    : ∀ earlier found later outer last,
        definitions = earlier ++ found :: later
        → found.name = outer ++ "." ++ last
        → '.' ∉ last.toList
        → ∃ message ∈ earlier, message.kind = .message ∧ message.name = outer
  typed
    : ∀ message ∈ definitions,
        message.kind = .message → ∀ field ∈ message.fields, ∃ type, field.type = some type
  values
    : ∀ enum ∈ definitions,
        enum.kind = .enum → ∀ value ∈ enum.fields, value.type = none ∧ value.label = .singular
  maps
    : ∀ message ∈ definitions,
        message.kind = .message
        → ∀ field ∈ message.fields,
          field.label = .map
          → field.type = some (message.name ++ "." ++ (Naming.goCamelCase field.name ++ "Entry"))
            ∧ ∃ entry ∈ definitions, field.type = some entry.name ∧ entry.IsEntry
  entries
    : definitions.countP (·.isMapEntry) = mapCount (definitions.flatMap (·.fields))
  groups
    : ∀ message ∈ definitions,
        message.kind = .message
        → ∀ field ∈ message.fields,
          field.label.isGroup
          → ∃ name,
              field.name = name.toLower
              ∧ field.type = some (message.name ++ "." ++ name)
              ∧ ∃ group ∈ definitions,
                field.type = some group.name
                ∧ group.kind = .message
                ∧ group.isMapEntry = false

-----------------------------------------------------------------------------------------
-- What comes before a definition
-----------------------------------------------------------------------------------------

/-- A name is in one piece, or it is that of something inside a message of a list. -/
def HasHome (known : List Definition) (name : String) : Prop :=
  '.' ∉ name.toList
  ∨ ∃ message ∈ known,
    message.kind = .message ∧ ∃ last, '.' ∉ last.toList ∧ name = message.name ++ "." ++ last

/-- A definition can follow those that are known: its name has its home among them, and if it is an
enum, its fields are values. -/
structure Joins (known : List Definition) (found : Definition) : Prop where
  home : HasHome known found.name
  values : found.kind = .enum → ∀ value ∈ found.fields, value.IsValue

/-- Definitions that can follow those that are known one after the other. -/
def Joined (known : List Definition) : List Definition → Prop
  | [] => True
  | found :: rest => Joins known found ∧ Joined (found :: known) rest

/-- A name keeps its home when more definitions are known. -/
theorem HasHome.mono {known more : List Definition} {name : String} (h : HasHome known name)
    (included : known ⊆ more)
    : HasHome more name := by
  rcases h with dotless | ⟨message, member, inside⟩
  · exact .inl dotless
  · exact .inr ⟨message, included member, inside⟩

/-- So definitions that could follow before still can. -/
theorem Joined.mono {known more definitions : List Definition} (h : Joined known definitions)
    (included : known ⊆ more)
    : Joined more definitions := by
  induction definitions generalizing known more with
  | nil => trivial
  | cons found rest ih =>
      obtain ⟨first, others⟩ := h
      refine ⟨⟨first.home.mono included, first.values⟩, ih others ?_⟩
      exact List.cons_subset_cons found included

/-- Two lists that can follow can follow in a row. -/
theorem Joined.append {known left right : List Definition} (hl : Joined known left)
    (hr : Joined known right)
    : Joined known (left ++ right) := by
  induction left generalizing known with
  | nil => exact hr
  | cons found rest ih =>
      exact ⟨hl.1, ih hl.2 (hr.mono (List.subset_cons_self found known))⟩

/-- Each definition of a list joins those before it. -/
theorem Joined.split {known earlier later : List Definition} {found : Definition}
    (h : Joined known (earlier ++ found :: later))
    : Joins (earlier.reverse ++ known) found := by
  induction earlier generalizing known with
  | nil => exact h.1
  | cons first rest ih => simpa using ih h.2

/-- The fields of every enum that can follow are values. -/
theorem Joined.values {known definitions : List Definition} (h : Joined known definitions)
    : ∀ enum ∈ definitions, enum.kind = .enum → ∀ value ∈ enum.fields, value.IsValue := by
  intro enum member
  obtain ⟨earlier, later, rfl⟩ := List.append_of_mem member
  exact h.split.values

/-- An enum that is read can follow where names in its scope have a home. -/
theorem EnumWritten.joined {scope : String} {enum : Definition} {known : List Definition}
    (h : EnumWritten scope enum)
    (home : ∀ name, isIdentifier name → HasHome known (inScope scope name))
    : Joined known [enum] := by
  cases h with
  | intro named each => exact ⟨⟨home _ named, fun _ => each⟩, trivial⟩

/-- What has a name in a scope is at home there if the message of the scope is known. -/
theorem hasHome_inScope {scope name : String} {known : List Definition} (outer : ScopeName scope)
    (dotless : '.' ∉ name.toList)
    (around : ∃ message ∈ known, message.kind = .message ∧ message.name = scope)
    : HasHome known (inScope scope name) := by
  obtain ⟨message, member, kind, rfl⟩ := around
  exact .inr ⟨message, member, kind, name, dotless, outer.inScope_eq name⟩

/-- What is nested in a message joins it, by induction on how the message is written. -/
theorem MessageBody.Written.joined {scope : String} {body : MessageBody} (h : body.Written scope)
    (outer : ScopeName scope) {known : List Definition}
    (around : ∃ message ∈ known, message.kind = .message ∧ message.name = scope)
    : Joined known body.nested := by
  induction h generalizing known with
  | close => trivial
  | field _ _ ih => exact ih outer around
  | mapField item _ ih =>
      cases item with
      | @mapField name =>
          have dotless : '.' ∉ (Naming.goCamelCase name ++ "Entry").toList := by
            simpa using Naming.goCamelCase_dotless name
          have home := hasHome_inScope outer dotless around
          exact Joined.append ⟨⟨home, nofun⟩, trivial⟩ (ih outer around)
  | enum item _ ih =>
      cases item with
      | enum written =>
          refine (written.joined fun name named => ?_).append (ih outer around)
          exact hasHome_inScope outer (isIdentifier_dotless named) around
  | @message scope name field inner body item _ _ inside rest =>
      have named := item.named
      have path := outer.inScope named
      have home := hasHome_inScope outer (isIdentifier_dotless named) around
      refine Joined.append ⟨⟨home, nofun⟩, inside path ?_⟩ (rest outer around)
      exact ⟨_, List.mem_cons_self .., rfl, rfl⟩

/-- The definitions of a file can follow one after the other, from none on. -/
theorem DefinitionsWritten.joined {definitions : List Definition}
    (h : DefinitionsWritten definitions)
    : Joined [] definitions := by
  induction h with
  | nil => trivial
  | enum _ written ih =>
      refine ih.append (written.joined fun name named => .inl ?_)
      exact isIdentifier_dotless named
  | message _ named written ih =>
      refine ih.append ⟨⟨.inl (isIdentifier_dotless named), nofun⟩, written.joined (.root named) ?_⟩
      exact ⟨_, List.mem_cons_self .., rfl, rfl⟩

/-- A dotted name has one home: what comes before its last dot. -/
theorem HasHome.message {known : List Definition} {outer last : String}
    (h : HasHome known (outer ++ "." ++ last)) (dotless : '.' ∉ last.toList)
    : ∃ message ∈ known, message.kind = .message ∧ message.name = outer := by
  rcases h with none | ⟨message, member, kind, other, dotlessToo, same⟩
  · simp at none
  · have pieces : Text.split '.' outer ++ [last] = Text.split '.' message.name ++ [other] := by
      rw [← Text.split_dotless dotless, ← Text.split_dotless dotlessToo, ← Text.split_append,
        ← Text.split_append, same]
    have outers : Text.split '.' outer = Text.split '.' message.name :=
      (List.append_inj' pieces rfl).1
    refine ⟨message, member, kind, ?_⟩
    rw [← Text.intercalate_split message.name, ← outers, Text.intercalate_split]

-----------------------------------------------------------------------------------------
-- How many entries there are
-----------------------------------------------------------------------------------------

/-- A field counts if it is a map. -/
@[simp]
theorem mapCount_cons (field : Field) (rest : List Field)
    : mapCount (field :: rest) = mapCount rest + if field.label = .map then 1 else 0 := by
  simp [mapCount, List.countP_cons]

/-- The maps of two lists of fields add up. -/
@[simp]
theorem mapCount_append (left right : List Field)
    : mapCount (left ++ right) = mapCount left + mapCount right :=
  List.countP_append

/-- An enum has no maps. -/
theorem EnumWritten.mapCount_eq {scope : String} {enum : Definition} (h : EnumWritten scope enum)
    : mapCount enum.fields = 0 := by
  cases h with
  | intro named each =>
      refine List.countP_eq_zero.mpr fun value member => ?_
      simp [(each value member).label]

/-- An enum is not for the entries of a map. -/
theorem EnumWritten.isMapEntry_eq {scope : String} {enum : Definition} (h : EnumWritten scope enum)
    : enum.isMapEntry = false := by
  cases h with
  | intro => rfl

/-- The field of a group is no map. -/
theorem Field.ofGroup_label_ne {scope : String} {name : Token} {isRepeated : Bool} {number : Int32}
    : (Field.ofGroup scope name isRepeated number).label ≠ .map := by
  cases isRepeated <;> simp [Field.ofGroup]

/-- A message has an entry nested in it for each map among its fields and the fields of what is
nested, by induction on how it is written. -/
theorem MessageBody.Written.entries {scope : String} {body : MessageBody} (h : body.Written scope)
    : body.nested.countP (·.isMapEntry)
      = mapCount body.fields + mapCount (body.nested.flatMap (·.fields)) := by
  induction h with
  | close => rfl
  | field item _ ih =>
      cases item with
      | field plain => simp [MessageBody.after, plain.notMap, ih]
  | mapField item _ ih =>
      cases item with
      | mapField => simp [MessageBody.after, Field.ofMap, mapEntry, ih]; omega
  | enum item _ ih =>
      cases item with
      | enum written =>
          simp [MessageBody.after, written.mapCount_eq, written.isMapEntry_eq, ih]
  | message item _ _ inner outer =>
      cases item with
      | message => simp [MessageBody.after, MessageBody.definitions, inner, outer]; omega
      | group =>
          simp [MessageBody.after, MessageBody.definitions, Field.ofGroup_label_ne, inner, outer]
          omega

/-- A file has as many messages for entries as it has maps, by induction on how it is read. -/
theorem DefinitionsWritten.entries {definitions : List Definition}
    (h : DefinitionsWritten definitions)
    : definitions.countP (·.isMapEntry) = mapCount (definitions.flatMap (·.fields)) := by
  induction h with
  | nil => rfl
  | enum _ written ih => simp [written.mapCount_eq, written.isMapEntry_eq, ih]
  | message _ _ written ih => simp [MessageBody.definitions, written.entries, ih]

-----------------------------------------------------------------------------------------
-- Fields and their messages
-----------------------------------------------------------------------------------------

/-- The message that comes with a map field is one for its entries. -/
theorem mapEntry_isEntry (name : String) (position : Position) (key value : Token)
    : (mapEntry name position key value).IsEntry :=
  ⟨rfl, rfl, rfl⟩

/-- The definitions of a file that can be written are arranged in that way. -/
theorem DefinitionsWritten.arranged {definitions : List Definition}
    (h : DefinitionsWritten definitions)
    : Arranged definitions where
  preceded := by
    rintro earlier found later outer last rfl named dotless
    have home := h.joined.split.home
    rw [named, List.append_nil] at home
    obtain ⟨message, member, inside⟩ := home.message dotless
    exact ⟨message, List.mem_reverse.mp member, inside⟩
  typed := fun message member kind field declared =>
    (h.accompanied message member kind field declared).typed
  values := fun enum member kind value listed =>
    have isValue := h.joined.values enum member kind value listed
    ⟨isValue.type, isValue.label⟩
  maps := by
    intro message member kind field declared label
    have path := h.allPaths message member
    cases h.accompanied message member kind field declared with
    | plain plain => exact absurd label plain.notMap
    | own present companion =>
        cases companion with
        | @entry name =>
            exact ⟨congrArg some (path.inScope_eq _), _, present, rfl, mapEntry_isEntry ..⟩
        | group => exact absurd label Field.ofGroup_label_ne
  entries := h.entries
  groups := by
    intro message member kind field declared label
    have path := h.allPaths message member
    cases h.accompanied message member kind field declared with
    | plain plain => exact absurd label (by simp [plain.notGroup])
    | own present companion =>
        cases companion with
        | entry => cases label
        | @group name =>
            have lower : String.ofList (name.text.toList.map Char.toLower) = name.text.toLower := by
              rw [← String.toList_map, String.ofList_toList]
              rfl
            have typed := path.inScope_eq name.text
            exact ⟨name.text, lower, congrArg some typed, _, present, rfl, rfl, rfl⟩

/-- The definitions of every file that is read are arranged: messages before what stands in them,
fields with types and values without, and each map field and group with a message of its own. -/
theorem parse_arranged {tokens : Tokens} {file : File} (h : parse tokens = .ok file)
    : Arranged file.definitions :=
  (parse_written h).definitions.arranged

/-- The tokens of a message in which another repeats its name, with a map, a group and an enum. -/
def stallTokens : Tokens :=
  [
    "message", "Stall", "\x7b",
    "message", "Stall", "\x7b", "enum", "Size", "\x7b", "SMALL", "=", "0", ";", "\x7d", "\x7d",
    "map", "<", "string", ",", "Size", ">", "in_stock", "=", "1", ";",
    "repeated", "group", "Shelf", "=", "2", "\x7b", "required", "int32", "row", "=", "1", ";",
    "\x7d", "\x7d", ""
  ].map (⟨·, .start⟩)

def stallFile : File :=
  { File.empty with
    definitions :=
      [
        ⟨"Stall", .start, .message,
          [
            ⟨"in_stock", .start, some "Stall.InStockEntry", .map, 1⟩,
            ⟨"shelf", .start, some "Stall.Shelf", .repeatedGroup, 2⟩
          ], false⟩,
        ⟨"Stall.Stall", .start, .message, [], false⟩,
        ⟨"Stall.Stall.Size", .start, .enum, [⟨"SMALL", .start, none, .singular, 0⟩], false⟩,
        ⟨"Stall.InStockEntry", .start, .message,
          [
            ⟨"key", .start, some "string", .singular, 1⟩,
            ⟨"value", .start, some "Size", .singular, 2⟩
          ], true⟩,
        ⟨"Stall.Shelf", .start, .message,
          [⟨"row", .start, some "int32", .optional, 1⟩], false⟩
      ] }

/-- The stall is read, and its definitions are arranged. -/
theorem stall_arranged : parse stallTokens = .ok stallFile ∧ Arranged stallFile.definitions := by
  have parsed : parse stallTokens = .ok stallFile := toOption_eq_some.mp (by decide +kernel)
  exact ⟨parsed, parse_arranged parsed⟩

end GrpcMock.Proto
