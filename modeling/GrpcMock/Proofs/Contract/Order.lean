import GrpcMock.Contract.Reader
import GrpcMock.Outcome
import GrpcMock.Proofs.Sorted
import Mathlib.Data.String.Basic

/-!
The order of contracts. In whatever order a document gives the services of a contract and their
methods, they come in the order of their names, each once.
-/

namespace GrpcMock

variable {α ρ : Type}

-----------------------------------------------------------------------------------------
-- What readers give
-----------------------------------------------------------------------------------------

namespace Document

/-- Every value that is read has a property. -/
def Reader.Gives (reader : Reader α) (holds : α → Prop) : Prop :=
  ∀ document value, reader.read document = .ok value → holds value

/-- A record that has a property has it after a member is filled in. -/
def Slot.Keeps (slot : Slot ρ) (holds : ρ → Prop) : Prop :=
  ∀ document before after, holds before → slot.fill document before = .ok after → holds after

/-- What holds of every entry that is read holds of all of them. -/
theorem readEntries_forall {read : Document → Except Fault α} {holds : α → Prop}
    (each : ∀ document value, read document = .ok value → holds value) {whole : Bool}
    {members : List (Option String × Document)} {entries : List (String × α)}
    (run : readEntries read whole members = .ok entries)
    : ∀ entry ∈ entries, holds entry.2 := by
  induction members generalizing entries with
  | nil =>
      rw [readEntries] at run
      split at run
      · cases run
        nofun
      · cases run
  | cons first rest ih =>
      rcases first with ⟨_ | name, document⟩
      · cases run
      · obtain ⟨value, head, run⟩ := bind_eq_ok.mp run
        obtain ⟨others, tail, same⟩ := bind_eq_ok.mp run
        cases same
        exact List.forall_mem_cons.mpr ⟨each document value head, ih tail⟩

/-- A map that is read is in the order of its names. -/
theorem Reader.map_gives {reader : Reader α} {holds : α → Prop} (h : reader.Gives holds)
    : (Reader.map reader).Gives fun entries =>
        Sorted.Ascending entries ∧ ∀ entry ∈ entries, holds entry.2 := by
  intro document entries run
  change readMap reader.read document = .ok entries at run
  unfold readMap at run
  split at run
  · obtain ⟨given, read, rfl⟩ := map_eq_ok.mp run
    refine ⟨Sorted.ofList_ascending given, fun entry sorted => ?_⟩
    exact readEntries_forall h read entry (Sorted.mem_ofList sorted)
  · cases run
    exact ⟨List.Pairwise.nil, nofun⟩
  · cases run

-----------------------------------------------------------------------------------------
-- Records
-----------------------------------------------------------------------------------------

namespace Shape

variable {shape : Shape ρ} {holds : ρ → Prop}

/-- What all slots of a record keep is kept by reading its members. -/
theorem readMembers_keeps (keeps : ∀ slot ∈ shape.slots, slot.Keeps holds) {before after : ρ}
    {members : List (Option String × Document)} (start : holds before)
    (run : shape.readMembers before members = .ok after)
    : holds after := by
  induction members generalizing before with
  | nil =>
      cases run
      exact start
  | cons first rest ih =>
      rcases first with ⟨_ | name, document⟩
      · cases run
      rw [readMembers] at run
      split at run
      · split at run
        · exact ih start run
        · cases run
      · rename_i slot found
        split at run
        · cases run
        · obtain ⟨between, filled, run⟩ := bind_eq_ok.mp run
          exact ih (keeps slot (List.mem_of_find?_eq_some found) _ _ _ start filled) run

/-- So it is by reading its items in order. -/
theorem readInOrder_keeps {slots : List (Slot ρ)} (keeps : ∀ slot ∈ slots, slot.Keeps holds)
    {whole : Bool} {count : Nat} {before after : ρ} {items : List Document} (start : holds before)
    (run : shape.readInOrder whole count before slots items = .ok after)
    : holds after := by
  induction slots generalizing count before items with
  | nil =>
      cases items with
      | nil =>
          rw [readInOrder] at run
          split at run
          · cases run
            exact start
          · cases run
      | cons => cases run
  | cons slot slots ih =>
      rw [List.forall_mem_cons] at keeps
      cases items with
      | nil =>
          rw [readInOrder] at run
          split at run
          · cases run
          split at run
          · cases run
          · exact ih keeps.2 start run
      | cons item rest =>
          obtain ⟨between, filled, run⟩ := bind_eq_ok.mp run
          exact ih keeps.2 (keeps.1 _ _ _ start filled) run

/-- The check that a record is filled does not change it. -/
theorem checkFilled_eq_ok {record result : ρ} (run : shape.checkFilled record = .ok result)
    : record = result := by
  unfold checkFilled at run
  split at run
  · cases run
  · exact Except.ok.inj run

/-- A record that is read has what the blank one has and what each member keeps. -/
theorem reader_gives {f : ρ → α} (keeps : ∀ slot ∈ shape.slots, slot.Keeps holds)
    (blank : holds shape.blank)
    : (shape.reader f).Gives fun value => ∃ record, holds record ∧ value = f record := by
  intro document value run
  obtain ⟨record, given, rfl⟩ := map_eq_ok.mp run
  refine ⟨record, ?_, rfl⟩
  unfold read at given
  split at given
  · obtain ⟨filled, members, complete⟩ := bind_eq_ok.mp given
    split at complete
    · exact checkFilled_eq_ok complete ▸ readMembers_keeps keeps blank members
    · cases complete
  · exact readInOrder_keeps keeps blank given
  · exact checkFilled_eq_ok given ▸ blank
  · cases given

end Shape

end Document

-----------------------------------------------------------------------------------------
-- Contracts
-----------------------------------------------------------------------------------------

namespace Contract

open GrpcMock.Document (Reader)

/-- The services are in the order of their names, and so are the methods of each. -/
def Ordered (services : List (String × List (String × Cases))) : Prop :=
  Sorted.Ascending services ∧ ∀ service ∈ services, Sorted.Ascending service.2

/-- The only member that matters is that for the services. -/
theorem slots_keep
    : ∀ slot ∈ shape.slots, slot.Keeps fun record => Ordered (record.2.getD []) := by
  have methods
      : (Reader.map Cases.reader).Gives fun entries =>
          Sorted.Ascending entries ∧ ∀ entry ∈ entries, True :=
    Reader.map_gives fun _ _ _ => trivial
  simp only [shape, List.forall_mem_cons]
  refine ⟨?_, ?_, nofun⟩
  · intro document before after start filled
    obtain ⟨name, _, rfl⟩ := map_eq_ok.mp filled
    exact start
  · intro document before after _ filled
    obtain ⟨rest, last, rfl⟩ := map_eq_ok.mp filled
    obtain ⟨services, read, rfl⟩ := map_eq_ok.mp last
    have given := Reader.map_gives methods document services read
    exact ⟨given.1, fun service member => (given.2 service member).1⟩

/-- The services of a contract that is read are in the order of their names. -/
theorem reader_gives : reader.Gives fun contract => Ordered contract.services := by
  intro document contract run
  obtain ⟨record, ordered, rfl⟩ :=
    Document.Shape.reader_gives slots_keep ⟨List.Pairwise.nil, nofun⟩ document contract run
  exact ordered

/-- Every contract that is read is in order, whatever it was written in. -/
theorem ordered_of_ofText {format : ContractFormat} {text : String} {contract : Contract}
    (read : ofText format text = .ok contract)
    : Ordered contract.services := by
  cases format with
  | json =>
      rw [ofText] at read
      cases parsed : Json.readTyped reader.read text with
      | error => rw [parsed] at read; cases read
      | ok value =>
          rw [parsed] at read
          cases read
          obtain ⟨value, given, rest⟩ := bind_eq_ok.mp parsed
          split at rest
          · cases rest
            exact reader_gives _ _ given
          · cases rest
  | yaml =>
      rw [ofText] at read
      cases parsed : Yaml.readTyped? reader text with
      | none => rw [parsed] at read; cases read
      | some value =>
          rw [parsed] at read
          cases read
          obtain ⟨document, _, given⟩ := Option.bind_eq_some_iff.mp parsed
          exact reader_gives _ _ (toOption_eq_some.mp given)

end Contract

end GrpcMock
