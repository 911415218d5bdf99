import GrpcMock.Proofs.Proto.Image

/-!
What the check of a file decides. The search for nesting finds fault exactly with a cycle, and a
file that passes everything can be linked.
-/

namespace GrpcMock.Proto

open Relation (TransGen)

namespace File

-----------------------------------------------------------------------------------------
-- Nesting
-----------------------------------------------------------------------------------------

/-- In a file that keeps all other rules, the check of nesting fails exactly if some message can be
reached from itself by references, whatever fields they belong to and however many there are. The
message that it names is one of these. -/
theorem check_eq_recursive_iff {file : File} (declared : file.checkDeclarations = .ok ())
    : ((∃ name, file.check = .error (.recursive name))
        ↔ ∃ message ∈ file.definitions,
            message.kind = .message ∧ TransGen file.Refers message message)
      ∧ ∀ name,
          file.check = .error (.recursive name)
          → ∃ message ∈ file.definitions,
              message.name = name
              ∧ message.kind = .message
              ∧ TransGen file.Refers message message := by
  have check : file.check = file.checkNesting := by
    rw [File.check, declared]
    rfl
  rw [check]
  rcases file.checkNesting_cases with ⟨passes, grounded⟩ | ⟨message, member, kind, cycle, fails⟩
  · rw [passes]
    refine ⟨⟨?_, ?_⟩, ?_⟩
    · rintro ⟨_, fails⟩
      cases fails
    · rintro ⟨message, member, kind, cycle⟩
      exact absurd cycle (grounded message member kind).acyclic
    · intro _ fails
      cases fails
  · rw [fails]
    refine ⟨⟨fun _ => ⟨message, member, kind, cycle⟩, fun _ => ⟨message.name, rfl⟩⟩, ?_⟩
    intro name same
    simp only [Except.error.injEq, Violation.recursive.injEq] at same
    exact ⟨message, member, same, kind, cycle⟩

/-- Two messages that hold each other, one as a repeated field and the other through a map. -/
def forest : File :=
  { File.empty with
    definitions :=
      [
        ⟨"Tree", ⟨1, 9⟩, .message, [⟨"leaves", ⟨1, 30⟩, some "Leaf", .repeated, 1⟩], false⟩,
        ⟨"Leaf", ⟨1, 52⟩, .message, [⟨"trees", ⟨1, 77⟩, some "Leaf.TreesEntry", .map, 1⟩], false⟩,
        ⟨"Leaf.TreesEntry", ⟨1, 77⟩, .message,
          [
            ⟨"key", ⟨1, 63⟩, some "string", .singular, 1⟩,
            ⟨"value", ⟨1, 71⟩, some "Tree", .singular, 2⟩
          ], true⟩
      ] }

/-- The search finds the cycle, so there is one. -/
theorem forest_cyclic
    : forest.checkDeclarations = .ok ()
      ∧ forest.check = .error (.recursive "Tree")
      ∧ ∃ message ∈ forest.definitions,
          message.name = "Tree"
          ∧ message.kind = .message
          ∧ TransGen forest.Refers message message := by
  have declared : forest.checkDeclarations = .ok () := toOption_eq_some.mp (by decide +kernel)
  have fails : forest.check = .error (.recursive "Tree") := by decide +kernel
  exact ⟨declared, fails, (check_eq_recursive_iff declared).2 "Tree" fails⟩

-----------------------------------------------------------------------------------------
-- Linking
-----------------------------------------------------------------------------------------

/-- Linking succeeds for every file that was read and keeps the rules. The package that it gives is
an image of the file, its services included, and everything that is referred to in it is an entry of
it. -/
theorem link_image {file : File} {text : String} (read : ofText text = .ok file)
    (accepted : file.check = .ok ())
    : ∃ package, file.link = .ok package ∧ file.Image package ∧ package.WellFormed := by
  have linkable := Linkable.of_check (Written.of_text read) accepted
  obtain ⟨package, links, declares⟩ := link_declares linkable
  exact ⟨package, links, declares.image linkable.allowed, declares.wellFormed linkable.allowed⟩

/-- A message with a map to a message that is nested in it, and a service that returns the latter.
-/
def orders : File :=
  { File.empty with
    definitions :=
      [
        ⟨"Order", ⟨1, 9⟩, .message, [⟨"lines", ⟨1, 35⟩, some "Order.LinesEntry", .map, 1⟩], false⟩,
        ⟨"Order.LinesEntry", ⟨1, 35⟩, .message,
          [
            ⟨"key", ⟨1, 21⟩, some "string", .singular, 1⟩,
            ⟨"value", ⟨1, 29⟩, some "Line", .singular, 2⟩
          ], true⟩,
        ⟨"Order.Line", ⟨1, 54⟩, .message, [⟨"count", ⟨1, 67⟩, some "int32", .singular, 1⟩], false⟩
      ],
    services := [⟨"Desk", ⟨2, 9⟩, [⟨"Place", ⟨2, 20⟩, "Order", "Order.Line"⟩]⟩] }

def ordersText : String :=
  "message Order \x7b map<string, Line> lines = 1; message Line \x7b int32 count = 1; \x7d \x7d\n"
    ++ "service Desk \x7b rpc Place(Order) returns (Order.Line); \x7d"

theorem orders_image
    : ofText ordersText = .ok orders
      ∧ orders.check = .ok ()
      ∧ ∃ package, orders.link = .ok package ∧ orders.Image package ∧ package.WellFormed := by
  have read : ofText ordersText = .ok orders := toOption_eq_some.mp (by decide +kernel)
  have accepted : orders.check = .ok () := toOption_eq_some.mp (by decide +kernel)
  exact ⟨read, accepted, link_image read accepted⟩

end File

end GrpcMock.Proto
