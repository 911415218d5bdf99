import GrpcMock.CommandLine.Command

/-!
The program. It performs a command on the files of the machine it runs on.
-/

namespace GrpcMock.Program

open GrpcMock.CommandLine (Command)

def usage : String :=
  "usage: deal [-v] generate -p FILE -c FILE [-o FILE] [--package NAME] [--stub-prefix NAME]\n"
    ++ "                     [--unmatched-code CODE]\n"
    ++ "       deal [-v] check -p FILE -c FILE\n"
    ++ "       deal [-v] inspect -p FILE\n"

/-- Why the machine refuses to read or write. -/
def faultOf : IO.Error → FileFault
  | .noFileOrDirectory .. => .notFound
  | .inappropriateType .. => .isDirectory
  | _ => .other

def attempt {α : Type} (action : IO α) : IO (Except FileFault α) := do
  try
    return .ok (← action)
  catch failure =>
    return .error (faultOf failure)

/-- The files of the machine, and its standard output. -/
def machine : Host IO where
  read path := attempt (IO.FS.readFile path)
  write path text := attempt (IO.FS.writeFile path text)
  print text := IO.print text

def variableNames : List String :=
  ["DEAL_PACKAGE", "DEAL_STUB_PREFIX", "DEAL_UNMATCHED_CODE"]

/-- The values of the variables that are set. -/
def environment : IO (List (String × String)) := do
  let mut values := []
  for name in variableNames do
    match ← IO.getEnv name with
    | some value => values := (name, value) :: values
    | none => pure ()
  return values

def perform (command : Command) : IO UInt32 := do
  match ← command.perform machine with
  | .ok () => return 0
  | .error failure =>
      IO.eprintln ("Error: " ++ failure.message)
      return 1

end GrpcMock.Program

def main (arguments : List String) : IO UInt32 := do
  let values ← GrpcMock.Program.environment
  match GrpcMock.CommandLine.Command.ofArguments (values.lookup ·) .nothing arguments with
  | .ok command => GrpcMock.Program.perform command
  | .error _ =>
      IO.eprint GrpcMock.Program.usage
      return 2
