import GrpcMock.Failure
import GrpcMock.Proto.Description
import GrpcMock.Proto.Link

/-!
Schema text as a whole: reading a file, checking its rules, and linking what it declares. The first
failure along this way is the one that is reported.
-/

namespace GrpcMock.Proto

/-- Reads a schema text without checking its rules. -/
def read (text : String) : Except Failure File :=
  (File.ofText text).mapError .malformedSchema

/-- Reads a schema text that keeps all rules. -/
def readChecked (text : String) : Except Failure File := do
  let file ← read text
  file.check.mapError .violation
  pure file

def linkFile (file : File) : Except Failure Package :=
  file.link.mapError .violation

/-- What a schema text declares. -/
def compile (text : String) : Except Failure Package := do
  let file ← readChecked text
  linkFile file

/-- A schema text that compiles, described as JSON. -/
def describe (text : String) : Except Failure String := do
  let file ← readChecked text
  let _ ← linkFile file
  pure file.toJson.pretty

end GrpcMock.Proto
