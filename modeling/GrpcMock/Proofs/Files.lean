import GrpcMock.Files
import Mathlib.Data.List.Defs

/-!
What writing does to a tree of files: the file that is written holds the text, and nothing else
changes.
-/

namespace GrpcMock

/-- A file holds the text that it is made of. -/
theorem Node.text?_ofText (text : String) : (Node.ofText text).text? = some text := by
  have valid : text.toUTF8.IsValidUTF8 := text.isValidUTF8
  rw [text?, ofText, if_pos rfl, Option.bind_some, String.fromUTF8?, dif_pos valid]
  rfl

namespace Files

theorem lookup_cons {files : Files} {first other : List String} {node : Node}
    : ((first, node) :: files).lookup other
      = if other = first then some node else files.lookup other := by
  rw [List.lookup_cons]
  by_cases same : other = first
  · rw [beq_iff_eq.mpr same, if_pos same]
  · rw [beq_false_of_ne same, if_neg same]

/-- What is put in a place is there afterwards, and all other places are as before. -/
theorem lookup_replace {files : Files} {parts other : List String} {node : Node}
    : (replace parts node files).lookup other
      = if other = parts then some node else files.lookup other := by
  induction files with
  | nil => exact lookup_cons
  | cons first rest ih =>
      rw [replace]
      split
      · rename_i same
        rw [lookup_cons, lookup_cons, same]
        split <;> rfl
      · rename_i differs
        rw [lookup_cons, ih, lookup_cons]
        split
        · rename_i same
          rw [if_neg (same ▸ differs)]
        · rfl

/-- The text of a file is read where the file stands. -/
theorem read_of_lookup {files : Files} {path text : String}
    (there : files.lookup (pathParts path) = some (.ofText text))
    (plain : endsInDirectory path = false)
    : files.read path = .ok text := by
  have named : ¬path.isEmpty := by
    intro empty
    rw [String.isEmpty_iff.mp empty] at plain
    exact absurd plain (by decide)
  have file : isDirectory files (pathParts path) = false := by
    rw [isDirectory, there]
    rfl
  simp only [read, named, file, there, plain, Node.text?_ofText]
  rfl

/-- Writing puts the bytes of a text in the place of the file. -/
theorem eq_replace_of_write {files after : Files} {path text : String}
    (written : files.write path text = .ok after)
    : ∃ node, node.bytes = some text.toUTF8 ∧ after = replace (pathParts path) node files := by
  unfold write at written
  dsimp only at written
  split at written
  · cases written
  split at written
  · cases written
  split at written
  · split at written
    · cases written
    split at written
    · cases written
      exact ⟨_, rfl, rfl⟩
    · cases written
  · split at written
    · cases written
    split at written
    · cases written
    split at written
    · cases written
      exact ⟨_, rfl, rfl⟩
    · cases written

/-- A file that was written holds the text byte by byte, and all else is as before. -/
theorem lookup_of_write {files after : Files} {path text : String}
    (written : files.write path text = .ok after)
    : (∃ node, after.lookup (pathParts path) = some node ∧ node.bytes = some text.toUTF8)
      ∧ ∀ other, other ≠ pathParts path → after.lookup other = files.lookup other := by
  obtain ⟨node, holds, rfl⟩ := eq_replace_of_write written
  refine ⟨⟨node, ?_, holds⟩, fun other differs => ?_⟩
  · rw [lookup_replace, if_pos rfl]
  · rw [lookup_replace, if_neg differs]

end Files

end GrpcMock
