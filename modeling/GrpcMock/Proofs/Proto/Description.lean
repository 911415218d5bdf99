import GrpcMock.Proofs.Json.RoundTrip
import GrpcMock.Proofs.Proto.Compile
import GrpcMock.Proofs.Proto.Placement
import Mathlib.Algebra.Group.Nat.Defs

/-!
The description of a schema file. Every part of the file is a member of its own, so the file can be
read back from the JSON text, and files with the same description are the same.
-/

namespace GrpcMock

open GrpcMock.Decimal (Range)
open GrpcMock.Text (byteCount)

-----------------------------------------------------------------------------------------
-- Members of JSON objects
-----------------------------------------------------------------------------------------

namespace Json

def text? : Json → Option String
  | .string text => some text
  | _ => none

/-- A text that may be null. -/
def optionalText? : Json → Option (Option String)
  | .null => some none
  | .string text => some (some text)
  | _ => none

def bool? : Json → Option Bool
  | .bool value => some value
  | _ => none

def natural? : Json → Option Nat
  | .number (.integer n) => n.toNat?
  | _ => none

def int32? : Json → Option Int32
  | .number (.integer n) => if Range.int32.holds n then some (Int32.ofInt n) else none
  | _ => none

/-- The items of an array, each of which can be read. -/
def items? {α : Type} (read : Json → Option α) : Json → Option (List α)
  | .array items => items.mapM read
  | _ => none

/-- A text is read back from JSON. -/
@[simp]
theorem text?_sorted (text : String) : (sorted (.string text)).text? = some text := by
  rw [sorted, text?]

/-- So is a truth value. -/
@[simp]
theorem bool?_sorted (value : Bool) : (sorted (.bool value)).bool? = some value := by
  rw [sorted, bool?]

/-- So is a natural number. -/
@[simp]
theorem natural?_sorted (n : Nat) : (sorted (.number (.integer n))).natural? = some n := by
  rw [sorted, natural?]
  rfl

/-- So is a number of 32 bits. -/
@[simp]
theorem int32?_sorted (n : Int32) : (sorted (.number (.integer n.toInt))).int32? = some n := by
  have held : Range.int32.holds n.toInt :=
    Range.holds_iff.mpr ⟨n.le_toInt, Int.le_sub_one_of_lt n.toInt_lt⟩
  rw [sorted, int32?, if_pos held, Int32.ofInt_toInt]

/-- Items are read back if each of them is. -/
theorem items?_sorted {α : Type} {read : Json → Option α} {write : α → Json}
    (each : ∀ item, read (write item).sorted = some item) (items : List α)
    : items? read (sorted (.array (items.map write))) = some items := by
  rw [sorted, sortedItems_eq_map, items?]
  induction items with
  | nil => rfl
  | cons item rest ih =>
      rw [List.map_cons, List.map_cons, List.mapM_cons, each, ih]
      rfl

/-- Items can be written if each of them can. -/
theorem readable_map {α : Type} {room : Nat} {write : α → Json} {items : List α}
    (each : ∀ item ∈ items, Readable room (write item))
    : Readable (room + 1) (.array (items.map write)) :=
  .array (List.forall_mem_map.mpr each)

/-- Natural numbers of 64 bits are written and read without loss. -/
theorem isExact_natCast {n : Nat} (small : n < 2 ^ 64) : IsExact n := by
  refine .inr (Range.holds_iff.mpr ⟨Int.natCast_nonneg n, ?_⟩)
  exact Int.le_sub_one_of_lt (by exact_mod_cast small)

/-- So are integers of 32 bits. -/
theorem isExact_toInt (n : Int32) : IsExact n.toInt := by
  refine .inl (Range.holds_iff.mpr ⟨?_, ?_⟩)
  · exact Int.le_trans (by decide) n.le_toInt
  · exact Int.le_trans (Int.le_of_lt n.toInt_lt) (by decide)

end Json

/-- A place whose line and column are natural numbers of 64 bits. -/
def Position.IsExact (position : Position) : Prop :=
  position.line < 2 ^ 64 ∧ position.column < 2 ^ 64

def Position.ofJson? (json : Json) : Option Position := do
  let line ← json.member? "line" >>= Json.natural?
  let column ← json.member? "column" >>= Json.natural?
  pure ⟨line, column⟩

namespace Proto

-----------------------------------------------------------------------------------------
-- Files read back
-----------------------------------------------------------------------------------------

def Label.ofName? (name : String) : Option Label :=
  [.singular, .optional, .repeated, .map, .group, .repeatedGroup].find? (·.name = name)

def DefinitionKind.ofName? (name : String) : Option DefinitionKind :=
  [.enum, .message].find? (·.name = name)

/-- Labels are told apart by their names. -/
@[simp]
theorem Label.ofName?_name (label : Label) : ofName? label.name = some label := by
  cases label <;> decide

/-- So are the kinds of definitions. -/
@[simp]
theorem DefinitionKind.ofName?_name (kind : DefinitionKind) : ofName? kind.name = some kind := by
  cases kind <;> decide

/-- So are dialects. -/
@[simp]
theorem Dialect.ofName?_name (dialect : Dialect) : ofName? dialect.name = some dialect := by
  cases dialect <;> decide

def Field.ofJson? (json : Json) : Option Field := do
  let name ← json.member? "name" >>= Json.text?
  let position ← Position.ofJson? json
  let type ← json.member? "type_" >>= Json.optionalText?
  let label ← json.member? "label" >>= Json.text? >>= Label.ofName?
  let number ← json.member? "number" >>= Json.int32?
  pure ⟨name, position, type, label, number⟩

def Definition.ofJson? (json : Json) : Option Definition := do
  let name ← json.member? "name" >>= Json.text?
  let position ← Position.ofJson? json
  let kind ← json.member? "kind" >>= Json.text? >>= DefinitionKind.ofName?
  let fields ← json.member? "fields" >>= Json.items? Field.ofJson?
  let isMapEntry ← json.member? "is_map_entry" >>= Json.bool?
  pure ⟨name, position, kind, fields, isMapEntry⟩

def Rpc.ofJson? (json : Json) : Option Rpc := do
  let name ← json.member? "name" >>= Json.text?
  let position ← Position.ofJson? json
  let input ← json.member? "input_type" >>= Json.text?
  let output ← json.member? "output_type" >>= Json.text?
  pure ⟨name, position, input, output⟩

def Service.ofJson? (json : Json) : Option Service := do
  let name ← json.member? "name" >>= Json.text?
  let position ← Position.ofJson? json
  let methods ← json.member? "methods" >>= Json.items? Rpc.ofJson?
  pure ⟨name, position, methods⟩

def File.ofJson? (json : Json) : Option File := do
  let dialect ← json.member? "syntax" >>= Json.text? >>= Dialect.ofName?
  let package ← json.member? "package" >>= Json.optionalText?
  let goPackage ← json.member? "go_package" >>= Json.optionalText?
  let definitions ← json.member? "definitions" >>= Json.items? Definition.ofJson?
  let services ← json.member? "services" >>= Json.items? Service.ofJson?
  pure ⟨dialect, package, goPackage, definitions, services⟩

/-- A text that may be missing is read back. -/
@[simp]
theorem optionalText?_sorted (text : Option String)
    : (optionalText text).sorted.optionalText? = some text := by
  cases text with
  | none =>
      rw [optionalText, Option.map_none, Option.getD_none, Json.sorted, Json.optionalText?]
  | some text =>
      rw [optionalText, Option.map_some, Option.getD_some, Json.sorted, Json.optionalText?]

/-- A field is read back from its members, which have distinct names. -/
theorem Field.ofJson?_toJson (field : Field) : ofJson? field.toJson.sorted = some field := by
  have distinct : ["name", "line", "column", "type_", "label", "number"].Nodup := by decide
  have found (name : String)
      : field.toJson.sorted.member? name = (Sorted.find? name _).map Json.sorted :=
    Json.member?_sorted name distinct
  simp [ofJson?, Position.ofJson?, found, declared, Sorted.find?]

/-- A definition is read back from its members, its fields one by one. -/
theorem Definition.ofJson?_toJson (definition : Definition)
    : ofJson? definition.toJson.sorted = some definition := by
  have distinct : ["name", "line", "column", "kind", "fields", "is_map_entry"].Nodup := by decide
  have found (name : String)
      : definition.toJson.sorted.member? name = (Sorted.find? name _).map Json.sorted :=
    Json.member?_sorted name distinct
  simp [ofJson?, Position.ofJson?, found, declared, Sorted.find?,
    Json.items?_sorted Field.ofJson?_toJson]

/-- A method is read back from its members. -/
theorem Rpc.ofJson?_toJson (method : Rpc) : ofJson? method.toJson.sorted = some method := by
  have distinct : ["name", "line", "column", "input_type", "output_type"].Nodup := by decide
  have found (name : String)
      : method.toJson.sorted.member? name = (Sorted.find? name _).map Json.sorted :=
    Json.member?_sorted name distinct
  simp [ofJson?, Position.ofJson?, found, declared, Sorted.find?]

/-- A service is read back from its members, its methods one by one. -/
theorem Service.ofJson?_toJson (service : Service)
    : ofJson? service.toJson.sorted = some service := by
  have distinct : ["name", "line", "column", "methods"].Nodup := by decide
  have found (name : String)
      : service.toJson.sorted.member? name = (Sorted.find? name _).map Json.sorted :=
    Json.member?_sorted name distinct
  simp [ofJson?, Position.ofJson?, found, declared, Sorted.find?,
    Json.items?_sorted Rpc.ofJson?_toJson]

/-- A file is read back from its members, whatever order they are in. -/
theorem File.ofJson?_toJson (file : File) : ofJson? file.toJson.sorted = some file := by
  have distinct
      : ["syntax", "package", "go_package", "definitions", "services"].Nodup := by
    decide
  have found (name : String)
      : file.toJson.sorted.member? name = (Sorted.find? name _).map Json.sorted :=
    Json.member?_sorted name distinct
  simp [ofJson?, found, Sorted.find?, Json.items?_sorted Definition.ofJson?_toJson,
    Json.items?_sorted Service.ofJson?_toJson]

-----------------------------------------------------------------------------------------
-- What can be written
-----------------------------------------------------------------------------------------

open Json (Readable readable_map)

/-- The members that tell the name and place of a declaration can be read. -/
theorem readable_declared {room : Nat} {name : String} {position : Position}
    (exact : position.IsExact)
    : ∀ member ∈ declared name position, Readable room member.2 := by
  simp only [declared, List.forall_mem_cons]
  obtain ⟨line, column⟩ := exact
  exact ⟨.string, .integer (Json.isExact_natCast line), .integer (Json.isExact_natCast column),
    nofun⟩

/-- A text that may be missing can be read. -/
theorem readable_optionalText {room : Nat} (text : Option String)
    : Readable room (optionalText text) := by
  cases text with
  | none => exact .null
  | some text => exact .string

/-- The description of a field opens one object. -/
theorem Field.readable {field : Field} (exact : field.position.IsExact) (room : Nat)
    : Readable (room + 1) field.toJson := by
  refine .object (List.forall_mem_append.mpr ⟨readable_declared exact, ?_⟩)
  simp only [List.forall_mem_cons]
  exact ⟨readable_optionalText field.type, .string, .integer (Json.isExact_toInt _), nofun⟩

/-- That of a definition opens at most three: the definition, the list of its fields and one of
these. -/
theorem Definition.readable {definition : Definition}
    (exact : ∀ position ∈ definition.places, position.IsExact) (room : Nat)
    : Readable (room + 3) definition.toJson := by
  obtain ⟨here, fields⟩ := List.forall_mem_cons.mp exact
  refine .object (List.forall_mem_append.mpr ⟨readable_declared here, ?_⟩)
  simp only [List.forall_mem_cons]
  refine ⟨.string, readable_map fun field member => ?_, .bool, nofun⟩
  exact field.readable (List.forall_mem_map.mp fields field member) room

/-- The description of a method opens one object. -/
theorem Rpc.readable {method : Rpc} (exact : method.position.IsExact) (room : Nat)
    : Readable (room + 1) method.toJson := by
  refine .object (List.forall_mem_append.mpr ⟨readable_declared exact, ?_⟩)
  simp only [List.forall_mem_cons]
  exact ⟨.string, .string, nofun⟩

/-- That of a service opens at most three: the service, the list of its methods and one of these. -/
theorem Service.readable {service : Service}
    (exact : ∀ position ∈ service.places, position.IsExact) (room : Nat)
    : Readable (room + 3) service.toJson := by
  obtain ⟨here, methods⟩ := List.forall_mem_cons.mp exact
  refine .object (List.forall_mem_append.mpr ⟨readable_declared here, ?_⟩)
  simp only [List.forall_mem_cons]
  refine ⟨readable_map fun method member => ?_, nofun⟩
  exact method.readable (List.forall_mem_map.mp methods method member) room

/-- A file can be written if its places are numbers of 64 bits. -/
theorem File.readable {file : File} (exact : ∀ position ∈ file.places, position.IsExact)
    (room : Nat)
    : Readable (room + 5) file.toJson := by
  obtain ⟨definitions, services⟩ := List.forall_mem_append.mp exact
  refine .object ?_
  simp only [List.forall_mem_cons]
  refine ⟨.string, readable_optionalText _, readable_optionalText _, readable_map ?_,
    readable_map ?_, nofun⟩
  · intro definition member
    refine definition.readable (fun position inside => definitions position ?_) room
    exact List.mem_flatMap_of_mem member inside
  · intro service member
    refine service.readable (fun position inside => services position ?_) room
    exact List.mem_flatMap_of_mem member inside

/-- The places in a file that is read from a text that fits in memory. -/
theorem File.exact_of_text {text : String} {file : File}
    (small : byteCount text.toList < 2 ^ 63) (read : File.ofText text = .ok file)
    : ∀ position ∈ file.places, position.IsExact := by
  intro position inside
  obtain ⟨line, column⟩ := File.place_le read inside
  constructor <;> omega

-----------------------------------------------------------------------------------------
-- Descriptions
-----------------------------------------------------------------------------------------

/-- A text is described if the file that it writes keeps the rules and can be linked. -/
theorem describe_eq_ok {text description : String}
    : describe text = .ok description
      ↔ ∃ file,
          File.ofText text = .ok file
          ∧ file.check = .ok ()
          ∧ (∃ package, file.link = .ok package)
          ∧ file.toJson.pretty = description := by
  simp only [describe, readChecked, read, linkFile, bind_eq_ok, pure_eq_ok, mapError_eq_ok]
  constructor
  · rintro ⟨file, ⟨_, read, _, checked, rfl⟩, package, linked, same⟩
    exact ⟨_, read, checked, ⟨package, linked⟩, same⟩
  · rintro ⟨file, read, checked, ⟨package, linked⟩, same⟩
    exact ⟨file, ⟨file, read, (), checked, rfl⟩, package, linked, same⟩

/-- The file of a text that fits in memory is read back from the JSON text for it. -/
theorem File.read?_pretty {text : String} {file : File}
    (small : byteCount text.toList < 2 ^ 63) (read : File.ofText text = .ok file)
    : Json.read? file.toJson.pretty = some file.toJson.sorted :=
  Json.read?_pretty (file.readable (File.exact_of_text small read) 122)

/-- The description of a schema text is JSON that says what the file is, member by member, and
nothing else: the file is read back from it, so it is the only one with that description. No text
in memory has 2 ^ 63 bytes or more, and its places are numbers of 64 bits. -/
theorem describe_readsBack {text description : String}
    (small : byteCount text.toList < 2 ^ 63) (described : describe text = .ok description)
    : ∃ file,
        File.ofText text = .ok file
        ∧ Json.read? description = some file.toJson.sorted
        ∧ File.ofJson? file.toJson.sorted = some file
        ∧ ∀ other,
            byteCount other.toList < 2 ^ 63
            → describe other = .ok description
            → File.ofText other = .ok file := by
  obtain ⟨file, read, -, -, written⟩ := describe_eq_ok.mp described
  have back : Json.read? description = some file.toJson.sorted :=
    written ▸ File.read?_pretty small read
  refine ⟨file, read, back, file.ofJson?_toJson, fun other smallToo describedToo => ?_⟩
  obtain ⟨another, readToo, -, -, writtenToo⟩ := describe_eq_ok.mp describedToo
  have same : another.toJson.sorted = file.toJson.sorted :=
    Option.some.inj ((writtenToo ▸ File.read?_pretty smallToo readToo).symm.trans back)
  have one : some another = some file := by
    rw [← another.ofJson?_toJson, same, file.ofJson?_toJson]
  rw [readToo, Option.some.inj one]

/-- A schema with a map field, which brings a message for its entries with it. -/
def crateText : String :=
  "syntax = \"proto3\";\nmessage Crate \x7b map<string, int32> parts = 1; \x7d\n"
    ++ "service Depot \x7b rpc Pack(Crate) returns (Crate); \x7d\n"

def crateFile : File :=
  {
    dialect := .proto3,
    package := none,
    goPackage := none,
    definitions :=
      [
        {
          name := "Crate",
          position := ⟨2, 9⟩,
          kind := .message,
          fields := [⟨"parts", ⟨2, 36⟩, some "Crate.PartsEntry", .map, 1⟩],
          isMapEntry := false
        },
        {
          name := "Crate.PartsEntry",
          position := ⟨2, 36⟩,
          kind := .message,
          fields :=
            [
              ⟨"key", ⟨2, 21⟩, some "string", .singular, 1⟩,
              ⟨"value", ⟨2, 29⟩, some "int32", .singular, 2⟩
            ],
          isMapEntry := true
        }
      ],
    services := [⟨"Depot", ⟨3, 9⟩, [⟨"Pack", ⟨3, 21⟩, "Crate", "Crate"⟩]⟩]
  }

/-- The crate is read back from its description, with its map and its service. -/
theorem describe_readsBack_crate
    : byteCount crateText.toList < 2 ^ 63
      ∧ ∃ description,
          describe crateText = .ok description
          ∧ Json.read? description = some crateFile.toJson.sorted
          ∧ File.ofJson? crateFile.toJson.sorted = some crateFile
          ∧ ∀ other,
              byteCount other.toList < 2 ^ 63
              → describe other = .ok description
              → File.ofText other = .ok crateFile := by
  have read : File.ofText crateText = .ok crateFile := toOption_eq_some.mp (by decide +kernel)
  have checked : crateFile.check = .ok () := toOption_eq_some.mp (by decide +kernel)
  obtain ⟨package, linked, -⟩ := File.link_declares (.of_check (.of_text read) checked)
  have described : describe crateText = .ok crateFile.toJson.pretty :=
    describe_eq_ok.mpr ⟨crateFile, read, checked, ⟨package, linked⟩, rfl⟩
  have small : byteCount crateText.toList < 2 ^ 63 := by decide +kernel
  obtain ⟨file, readToo, back⟩ := describe_readsBack small described
  cases read.symm.trans readToo
  exact ⟨small, _, described, back⟩

end Proto

end GrpcMock
