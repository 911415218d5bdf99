import GrpcMock.Proofs.Proto.Image
import GrpcMock.Proto.Compile

/-!
Schema texts that compile. Reading, checking and linking have all succeeded for them, so all that is
known of each holds of the package.
-/

namespace GrpcMock.Proto

/-- What becomes of a failure does not matter to a success. -/
theorem mapError_eq_ok {ε φ α : Type} {f : ε → φ} {result : Except ε α} {value : α}
    : result.mapError f = .ok value ↔ result = .ok value := by
  cases result <;> simp [Except.mapError]

/-- A text compiles if the file that it writes keeps the rules and can be linked. -/
theorem compile_eq_ok {text : String} {package : Package}
    : compile text = .ok package
      ↔ ∃ file,
          File.ofText text = .ok file ∧ file.check = .ok () ∧ file.link = .ok package := by
  simp only [compile, readChecked, read, linkFile, bind_eq_ok, pure_eq_ok, mapError_eq_ok]
  constructor
  · rintro ⟨file, ⟨_, read, _, checked, rfl⟩, linked⟩
    exact ⟨_, read, checked, linked⟩
  · rintro ⟨file, read, checked, linked⟩
    exact ⟨file, ⟨file, read, (), checked, rfl⟩, linked⟩

/-- What compiles is the package that the file of the text declares. -/
theorem compile_declares {text : String} {package : Package} (h : compile text = .ok package)
    : ∃ file, File.ofText text = .ok file ∧ file.Linkable ∧ file.Declares package := by
  obtain ⟨file, read, checked, linked⟩ := compile_eq_ok.mp h
  have linkable := File.Linkable.of_check (.of_text read) checked
  obtain ⟨other, links, declares⟩ := File.link_declares linkable
  cases linked.symm.trans links
  exact ⟨file, read, linkable, declares⟩

/-- A package that a text compiles to is well-formed. -/
theorem compile_wellFormed {text : String} {package : Package} (h : compile text = .ok package)
    : package.WellFormed := by
  obtain ⟨file, _, linkable, declares⟩ := compile_declares h
  exact declares.wellFormed linkable.allowed

end GrpcMock.Proto
