import GrpcMock.Proto.Scope
import GrpcMock.Proto.Violation

/-!
Messages that would contain themselves. The search follows the references of each message; it knows
the messages that lead to no cycle and those that are not yet on the path that it follows.
-/

namespace GrpcMock.Proto

/-- The messages that the fields of a definition refer to, in the order of the fields. -/
def File.references (file : File) (definition : Definition) : List Definition :=
  definition.fields.filterMap fun field => do
    let type ← field.type
    let target ← file.resolve definition.name type
    target.message?

/-- Each field refers to one message at most. -/
theorem File.length_references (file : File) (definition : Definition)
    : (file.references definition).length ≤ definition.fields.length :=
  List.length_filterMap_le _ _

mutual
/-- Follows the references of a message and returns all messages now known to lead to no cycle.
`room` holds the definitions that are not on the path, so one outside it closes a cycle. -/
def File.follow (file : File) (room cleared : List Definition) (message : Definition)
    : Except Violation (List Definition) :=
  if message ∈ cleared then .ok cleared
  else if message ∈ room then do
    let cleared ← file.followAll (room.erase message) cleared (file.references message)
    pure (message :: cleared)
  else .error (.recursive message.name)
termination_by stepsWithin room
decreasing_by
  rename_i member
  have := stepsWithin_erase member
  have := file.length_references message
  omega

def File.followAll (file : File) (room cleared : List Definition)
    : List Definition → Except Violation (List Definition)
  | [] => .ok cleared
  | message :: rest => do
      let cleared ← file.follow room cleared message
      file.followAll room cleared rest
termination_by messages => stepsWithin room + messages.length
end

/-- Fails if some message contains itself, by whatever path. -/
def File.checkNesting (file : File) : Except Violation Unit :=
  let messages := file.definitions.filter (·.kind = .message)
  (file.followAll file.definitions [] messages).map fun _ => ()

end GrpcMock.Proto
