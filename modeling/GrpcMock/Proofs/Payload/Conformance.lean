import GrpcMock.Proofs.Payload.Message
import GrpcMock.Proofs.Proto.Compile

/-!
Payloads that are read with a compiled schema. The message that comes of one conforms to the schema
at every depth, as the example of a parcel with a map, a list and a field that can be unset shows.
-/

namespace GrpcMock.Payload

/-- Whatever is read from a payload conforms to the schema that it is read with: fields in the order
of the schema and each set once, maps with keys of the type of their key field, lists and single
values of the kind of their field, and positions of members for enums, in every nested message as
well. -/
theorem accepts_of_readMessage {text path : String} {package : Package} {schema : MessageSchema}
    {payload : Json} {message : MessageValue} (compiled : Proto.compile text = .ok package)
    (member : schema ∈ package.messages) (read : readMessage schema payload path = .ok message)
    : schema.Accepts message :=
  readMessage_conforms (Proto.compile_wellFormed compiled) schema member read

-----------------------------------------------------------------------------------------
-- Parcels
-----------------------------------------------------------------------------------------

def parcelText : String :=
  "message Parcel \x7b "
    ++ "map<int32, Item> items = 1; repeated Size sizes = 2; optional string note = 3; "
    ++ "enum Size \x7b SMALL = 0; LARGE = 5; \x7d "
    ++ "message Item \x7b int64 price_cents = 1; bytes code = 2; \x7d \x7d"

def itemSchema : MessageSchema :=
  {
    fullName := "Parcel.Item",
    ident := ⟨"Parcel_Item", ""⟩,
    fields :=
      [
        { FieldSchema.single "price_cents" 1 .int64 with hasPresence := true },
        { FieldSchema.single "code" 2 .bytes with hasPresence := true }
      ],
    isMapEntry := false
  }

/-- The message for the entries of the map from numbers to items. -/
def itemsEntrySchema : MessageSchema :=
  {
    fullName := "Parcel.ItemsEntry",
    ident := ⟨"Parcel_ItemsEntry", ""⟩,
    fields :=
      [
        FieldSchema.single "key" 1 .int32,
        { FieldSchema.single "value" 2 .message with message := some itemSchema }
      ],
    isMapEntry := true
  }

def sizeSchema : EnumSchema :=
  {
    fullName := "Parcel.Size",
    ident := ⟨"Parcel_Size", ""⟩,
    members := [⟨"SMALL", 0, ⟨"Parcel_SMALL", ""⟩⟩, ⟨"LARGE", 5, ⟨"Parcel_LARGE", ""⟩⟩]
  }

def parcelSchema : MessageSchema :=
  {
    fullName := "Parcel",
    ident := ⟨"Parcel", ""⟩,
    fields :=
      [
        { FieldSchema.single "items" 1 .message with
          isMap := true, message := some itemsEntrySchema },
        { FieldSchema.single "sizes" 2 .enum with isList := true, enumType := some sizeSchema },
        { FieldSchema.single "note" 3 .string with hasPresence := true }
      ],
    isMapEntry := false
  }

def parcelPackage : Package :=
  {
    name := none,
    goPackage := ⟨"", "main"⟩,
    messages := [parcelSchema, itemsEntrySchema, itemSchema],
    enums := [sizeSchema],
    services := []
  }

/-- The schema of parcels compiles to its package. -/
theorem compile_parcel : Proto.compile parcelText = .ok parcelPackage :=
  toOption_eq_some.mp (by decide +kernel)

def parcelPayload : Json :=
  .object
    [
      ("items",
        .object [("7", .object [("code", .string "AQI="), ("priceCents", .string "1250")])]),
      ("note", .null),
      ("sizes", .array [.string "LARGE", .number (.integer 0)])
    ]

/-- The message that the payload gives: one item, two sizes, and no note. -/
def parcelMessage : MessageValue :=
  [
    (1, .map [(.int32 7, .message [(1, .int64 1250), (2, .bytes [1, 2])])]),
    (2, .list [.enum 1, .enum 0])
  ]

/-- The parcel is its first message. -/
theorem mem_parcelPackage : parcelSchema ∈ parcelPackage.messages :=
  List.mem_cons_self ..

/-- The payload is read as a parcel, its sizes by name and by number. -/
theorem readMessage_parcel
    : readMessage parcelSchema parcelPayload "request" = .ok parcelMessage := by
  rfl

/-- The parcel is accepted by its schema. -/
theorem accepts_parcel
    : Proto.compile parcelText = .ok parcelPackage
      ∧ parcelSchema ∈ parcelPackage.messages
      ∧ readMessage parcelSchema parcelPayload "request" = .ok parcelMessage
      ∧ parcelSchema.Accepts parcelMessage :=
  ⟨compile_parcel, mem_parcelPackage, readMessage_parcel,
    accepts_of_readMessage compile_parcel mem_parcelPackage readMessage_parcel⟩

end GrpcMock.Payload
