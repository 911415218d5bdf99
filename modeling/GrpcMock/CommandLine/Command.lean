import GrpcMock.CommandLine.Options
import GrpcMock.Generate

/-!
The commands: writing mocks, checking a contract against a schema, and describing a schema. A
command reads files and either fails or ends by printing a text or writing a file.
-/

namespace GrpcMock.CommandLine

inductive Command where
  /-- Writes the mocks to a file, or prints them if there is none. -/
  | generate (schema contract : String) (output : Option String) (config : Config)
  | check (schema contract : String)
  | inspect (schema : String)
  deriving DecidableEq, Repr

def schemaOption : OptionSpec := ⟨"proto", some 'p', true⟩

def contractOption : OptionSpec := ⟨"contract", some 'c', true⟩

def generateOptions : List OptionSpec :=
  [
    schemaOption, contractOption, ⟨"output", some 'o', true⟩, ⟨"package", none, false⟩,
    ⟨"stub-prefix", none, false⟩, ⟨"unmatched-code", none, false⟩
  ]

/-- The settings that are given, or else those of the environment, or else the standard ones. -/
def configOf (environment : String → Option String) (given : Given) : Config :=
  let setting (option key : String) := (given.value? option).or (environment key)
  {
    packageName := (setting "package" "DEAL_PACKAGE").or Config.standard.packageName,
    stubPrefix := (setting "stub-prefix" "DEAL_STUB_PREFIX").getD Config.standard.stubPrefix,
    unmatchedCode :=
      (setting "unmatched-code" "DEAL_UNMATCHED_CODE").getD Config.standard.unmatchedCode
  }

/-- Reads the options of a command by its name. -/
def Command.ofOptions (environment : String → Option String) (name : String)
    (arguments : List String) : Except UsageFault Command :=
  match name with
  | "generate" => do
      let given ← Given.nothing.readAll generateOptions arguments
      let schema ← given.required "proto"
      let contract ← given.required "contract"
      pure (.generate schema contract (given.value? "output") (configOf environment given))
  | "check" => do
      let given ← Given.nothing.readAll [schemaOption, contractOption] arguments
      let schema ← given.required "proto"
      let contract ← given.required "contract"
      pure (.check schema contract)
  | "inspect" => do
      let given ← Given.nothing.readAll [schemaOption] arguments
      let schema ← given.required "proto"
      pure (.inspect schema)
  | other => .error (.unknown other)

/-- Reads the arguments: perhaps the flag, then the name of a command and its options. -/
def Command.ofArguments (environment : String → Option String) (given : Given)
    : List String → Except UsageFault Command
  | [] => .error .noCommand
  | argument :: rest =>
      match readArgument? [] argument with
      | none => Command.ofOptions environment argument rest
      | some pieces => do
          let (given, _) ← pieces >>= given.add
          Command.ofArguments environment given rest

/-- What is said of a contract that fits its schema. -/
def summary (schema contractPath : String) (contract : Contract) : String :=
  let counts := s!"{contract.services.length} services, {contract.caseCount} cases"
  s!"{contractPath}: {counts} OK against {schema}\n"

/-- Performs a command on a host. -/
def Command.perform {m : Type → Type} [Monad m] (host : Host m) : Command → Action m Unit
  | .generate schema contract output config => do
      let text ← host.generate schema contract config
      match output with
      | some path => host.save path text
      | none => host.say text
  | .check schema contractPath => do
      let package ← host.package schema
      let contract ← host.contract contractPath
      let _ ← Action.ofExcept (Mock.generate package contract .standard)
      host.say (summary schema contractPath contract)
  | .inspect schema => do
      let text ← host.text schema
      let description ← Action.ofExcept (Proto.describe text)
      host.say (description ++ "\n")

/-- Performs a command in a world, and gives how it ends and the world after it. -/
def Command.runIn (command : Command) (world : World) : Except Failure Unit × World :=
  (command.perform .world).run.run world

/-- How a run ends: its exit code, what it prints, and the files after it. -/
structure Outcome where
  exitCode : UInt32
  printed : String
  files : Files

/-- A whole run. Arguments that make no sense end it with two, a command that fails with one. -/
def run (files : Files) (environment : String → Option String) (arguments : List String)
    : Outcome :=
  match Command.ofArguments environment .nothing arguments with
  | .error _ => ⟨2, "", files⟩
  | .ok command =>
      let (result, world) := command.runIn ⟨files, ""⟩
      match result with
      | .error _ => ⟨1, world.printed, world.files⟩
      | .ok () => ⟨0, world.printed, world.files⟩

end GrpcMock.CommandLine
