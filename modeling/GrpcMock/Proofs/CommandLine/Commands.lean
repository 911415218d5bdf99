import GrpcMock.CommandLine.Command
import GrpcMock.Proofs.Files
import GrpcMock.Proofs.Proto.Compile

/-!
What commands do to the outside. Everything that can keep mocks from being made comes before the
one place where a command prints or writes, so a command that fails there leaves the world as it
was.
-/

namespace GrpcMock

variable {α β γ : Type}

-----------------------------------------------------------------------------------------
-- Actions
-----------------------------------------------------------------------------------------

namespace Action

variable {first : Action (StateM World) α} {next other : α → Action (StateM World) β}
  {world : World}

/-- After a success comes the next action, in the world that the first one left. -/
theorem run_bind
    : (first >>= next).run.run world
      = match first.run.run world with
        | (.ok value, after) => (next value).run.run after
        | (.error failure, after) => (.error failure, after) := by
  rw [ExceptT.run_bind, StateT.run_bind]
  rcases first.run.run world with ⟨failure | value, after⟩ <;> rfl

/-- Reading a file yields its text and leaves the world as it is. -/
theorem run_text {path text : String} (read : world.files.read path = .ok text)
    : (Host.world.text path).run.run world = (.ok text, world) := by
  change ((world.files.read path).mapError Failure.unreadable, world) = _
  rw [read]
  rfl

/-- A schema whose text can be read is what the text compiles to. -/
theorem run_package {path text : String} (read : world.files.read path = .ok text)
    : (Host.world.package path).run.run world = (Proto.compile text, world) := by
  rw [Host.package, run_bind, run_text read]
  rfl

/-- A contract whose text can be read is what the text says in its format. -/
theorem run_contract {path text : String} {format : ContractFormat}
    (known : ContractFormat.ofPath path = .ok format)
    (read : world.files.read path = .ok text)
    : (Host.world.contract path).run.run world = (Contract.ofText format text, world) := by
  rw [Host.contract, known]
  change (Host.world.text path >>= _ : Action (StateM World) Contract).run.run world = _
  rw [run_bind, run_text read]
  rfl

/-- From files whose texts can be read, mocks are made as from the texts. -/
theorem run_generate {schema contract schemaText contractText : String}
    {format : ContractFormat} (config : Config)
    (schemaRead : world.files.read schema = .ok schemaText)
    (known : ContractFormat.ofPath contract = .ok format)
    (contractRead : world.files.read contract = .ok contractText)
    : (Host.world.generate schema contract config).run.run world
      = (generateFromTexts schemaText format contractText config, world) := by
  rw [Host.generate, run_bind, run_package schemaRead, generateFromTexts]
  cases Proto.compile schemaText with
  | error failure => rfl
  | ok package =>
      change (Host.world.contract contract >>= _ : Action (StateM World) String).run.run world = _
      rw [run_bind, run_contract known contractRead]
      cases Contract.ofText format contractText <;> rfl

/-- Actions that go on in ways that end alike end alike. -/
theorem result_bind_congr
    (alike : ∀ value after, ((next value).run.run after).1 = ((other value).run.run after).1)
    : ((first >>= next).run.run world).1 = ((first >>= other).run.run world).1 := by
  rw [run_bind, run_bind]
  rcases first.run.run world with ⟨failure | value, after⟩
  · rfl
  · exact alike value after

/-- However an action ends, a part of the world is the same afterwards. -/
def Keeps (part : World → γ) (action : Action (StateM World) α) : Prop :=
  ∀ world, part (action.run.run world).2 = part world

namespace Keeps

variable {part : World → γ}

/-- Two actions keep what each of them keeps. -/
theorem bind (hf : Keeps part first) (hn : ∀ value, Keeps part (next value))
    : Keeps part (first >>= next) := by
  intro world
  have head := hf world
  rw [run_bind]
  revert head
  rcases first.run.run world with ⟨failure | value, after⟩
  · exact id
  · exact fun head => (hn value after).trans head

/-- A result that is already there changes nothing. -/
theorem ofExcept {result : Except Failure α} : Keeps part (Action.ofExcept result) :=
  fun _ => rfl

/-- Reading a file changes nothing. -/
theorem text {path : String} : Keeps part (Host.world.text path) :=
  fun _ => rfl

/-- Neither does reading a schema. -/
theorem package {path : String} : Keeps part (Host.world.package path) :=
  .bind .text fun _ => .ofExcept

/-- Neither does reading a contract. -/
theorem contract {path : String} : Keeps part (Host.world.contract path) :=
  .bind .ofExcept fun _ => .bind .text fun _ => .ofExcept

/-- Making mocks only looks at the world. -/
theorem generate {schema contractPath : String} {config : Config}
    : Keeps part (Host.world.generate schema contractPath config) :=
  .bind .package fun _ => .bind .contract fun _ => .ofExcept

/-- What is said changes no files. -/
theorem say {text : String} : Keeps World.files (Host.world.say text) :=
  fun _ => rfl

end Keeps

end Action

-----------------------------------------------------------------------------------------
-- Commands
-----------------------------------------------------------------------------------------

namespace CommandLine

namespace Command

open GrpcMock.Action (Keeps result_bind_congr run_bind run_generate)

variable {world after : World} {schema contract : String}

/-- A contract is checked by making its mocks with the standard settings. -/
theorem check_result
    : ((check schema contract).runIn world).1
      = ((generate schema contract none .standard).runIn world).1 := by
  unfold runIn
  simp only [perform, Host.generate, bind_assoc]
  refine result_bind_congr fun package _ => result_bind_congr fun loaded _ => ?_
  exact result_bind_congr fun text _ => rfl

/-- A check changes no files, however it ends. -/
theorem check_files : ((check schema contract).runIn world).2.files = world.files := by
  have keeps : Keeps World.files ((check schema contract).perform .world) :=
    .bind .package fun _ => .bind .contract fun _ => .bind .ofExcept fun _ => .say
  exact keeps world

variable {config : Config} {output : String}

/-- Whether mocks are to be printed or written, they are made first, and the world stays as it was
until that is done. -/
theorem generate_cases (world : World) (schema contract : String) (config : Config)
    : (∃ failure, ∀ output,
        (generate schema contract output config).runIn world = (.error failure, world))
      ∨ ∃ text,
          (generate schema contract none config).runIn world
            = (.ok (), { world with printed := world.printed ++ text })
          ∧ ∀ output,
              (generate schema contract (some output) config).runIn world
              = (Host.world.save output text).run.run world := by
  have looks : Keeps id (Host.world.generate schema contract config) := .generate
  have kept : ((Host.world.generate schema contract config).run.run world).2 = world := looks world
  unfold runIn
  simp only [perform, run_bind]
  revert kept
  rcases (Host.world.generate schema contract config).run.run world with ⟨failure | text, after⟩
  · rintro rfl
    exact .inl ⟨failure, fun output => rfl⟩
  · rintro rfl
    exact .inr ⟨text, rfl, fun output => rfl⟩

/-- Writing a file fails in the world that was, or leaves one with other files. -/
theorem run_write {path text : String}
    : (Host.world.write path text).run world
      = match world.files.write path text with
        | .error fault => (.error fault, world)
        | .ok files => (.ok (), { world with files }) :=
  rfl

/-- A file is saved by writing it, and nothing is printed. -/
theorem write_of_save {path text : String}
    (saved : (Host.world.save path text).run.run world = (.ok (), after))
    : world.files.write path text = .ok after.files ∧ after.printed = world.printed := by
  rw [Host.save, ExceptT.run_mk, StateT.run_bind, run_write] at saved
  revert saved
  cases world.files.write path text with
  | error fault => nofun
  | ok files =>
      rintro ⟨⟩
      exact ⟨rfl, rfl⟩

/-- Checking ends as making mocks with the standard settings does, and writes nothing. If mocks
cannot be made, nothing is written or printed either; and if they are written to a file, it is they
that would have been printed, and no other file changes. -/
theorem check_and_generate (world : World) (schema contract : String) (config : Config)
    (output : String)
    : ((check schema contract).runIn world).1
        = ((generate schema contract none .standard).runIn world).1
      ∧ ((check schema contract).runIn world).2.files = world.files
      ∧ (∀ failure,
          ((generate schema contract none config).runIn world).1 = .error failure
          → (generate schema contract (some output) config).runIn world = (.error failure, world))
      ∧ ∀ after,
          (generate schema contract (some output) config).runIn world = (.ok (), after)
          → ∃ text node,
              (generate schema contract none config).runIn world
                = (.ok (), { world with printed := world.printed ++ text })
              ∧ after.printed = world.printed
              ∧ after.files.lookup (Files.pathParts output) = some node
              ∧ node.bytes = some text.toUTF8
              ∧ ∀ other, other ≠ Files.pathParts output
                → after.files.lookup other = world.files.lookup other := by
  refine ⟨check_result, check_files, ?_⟩
  rcases generate_cases world schema contract config with
    ⟨failure, failed⟩ | ⟨text, printed, written⟩
  · rw [failed none, failed (some output)]
    refine ⟨?_, nofun⟩
    rintro _ ⟨⟩
    rfl
  · rw [printed, written output]
    refine ⟨nofun, fun after saved => ?_⟩
    obtain ⟨wrote, same⟩ := write_of_save saved
    obtain ⟨⟨node, there, holds⟩, others⟩ := Files.lookup_of_write wrote
    exact ⟨text, node, rfl, same, there, holds, others⟩

/-- A schema with one service. -/
def noteSchema : String :=
  "message Note \x7b \x7d service Desk \x7b rpc Take(Note) returns (Note); \x7d"

def noteMessage : MessageSchema :=
  { fullName := "Note", ident := ⟨"Note", ""⟩, fields := [], isMapEntry := false }

def notePackage : Package :=
  {
    name := none,
    goPackage := ⟨"", "main"⟩,
    messages := [noteMessage],
    enums := [],
    services := [⟨"Desk", "Desk", "Desk", [⟨"Take", "Take", noteMessage, noteMessage⟩]⟩]
  }

/-- The schema of notes compiles to its package. -/
theorem compile_note : Proto.compile noteSchema = .ok notePackage :=
  toOption_eq_some.mp (by decide +kernel)

/-- A contract for a service of which nothing is said but the name of a method. -/
def contractFor (service : String) : String :=
  "\x7b\"name\": \"notes\", \"services\": \x7b\"" ++ service
    ++ "\": \x7b\"Take\": \x7b\x7d\x7d\x7d\x7d"

/-- The schema, a contract that fits it, and one for a service that it does not declare. -/
def noteWorld : World :=
  {
    files :=
      [
        (["note.proto"], .ofText noteSchema),
        (["desk.json"], .ofText (contractFor "Desk")),
        (["shop.json"], .ofText (contractFor "Shop"))
      ],
    printed := ""
  }

/-- The contract for another service is read, and refused for it. -/
theorem generate_shop
    : generateFromTexts noteSchema .json (contractFor "Shop") .standard
      = .error (.unknownService "Shop") := by
  have services
      : (Contract.ofText .json (contractFor "Shop")).toOption.map (·.services.map Prod.fst)
        = some ["Shop"] := by
    decide +kernel
  obtain ⟨⟨name, services⟩, read, names⟩ := Option.map_eq_some_iff.mp services
  obtain ⟨⟨_, methods⟩, rfl, rfl⟩ := List.map_eq_singleton_iff.mp names
  rw [generateFromTexts, compile_note, toOption_eq_some.mp read]
  rfl

/-- Mocks are made for the contract that fits, and the same ones printed and written; the other
contract leaves nothing behind. -/
theorem check_and_generate_note
    : (∃ after text node,
        (generate "note.proto" "desk.json" (some "desk.go") .standard).runIn noteWorld
            = (.ok (), after)
          ∧ (generate "note.proto" "desk.json" none .standard).runIn noteWorld
            = (.ok (), { noteWorld with printed := text })
          ∧ after.files.lookup ["desk.go"] = some node
          ∧ node.bytes = some text.toUTF8)
      ∧ ((check "note.proto" "shop.json").runIn noteWorld).1 = .error (.unknownService "Shop")
      ∧ (generate "note.proto" "shop.json" (some "shop.go") .standard).runIn noteWorld
        = (.error (.unknownService "Shop"), noteWorld) := by
  have schemaRead : noteWorld.files.read "note.proto" = .ok noteSchema :=
    Files.read_of_lookup rfl rfl
  constructor
  · have possible
        : (generateFromTexts noteSchema .json (contractFor "Desk") .standard).toOption.isSome := by
      rw [generateFromTexts, compile_note]
      decide +kernel
    obtain ⟨text, made⟩ := Option.isSome_iff_exists.mp possible
    have contractRead : noteWorld.files.read "desk.json" = .ok (contractFor "Desk") :=
      Files.read_of_lookup rfl rfl
    have known : ContractFormat.ofPath "desk.json" = .ok .json := rfl
    have run := run_generate .standard schemaRead known contractRead
    rw [toOption_eq_some.mp made] at run
    have written
        : (generate "note.proto" "desk.json" (some "desk.go") .standard).runIn noteWorld
          = (.ok (), { noteWorld with
              files := noteWorld.files.replace ["desk.go"] (.ofText text) }) := by
      rw [runIn, perform, run_bind, run]
      rfl
    obtain ⟨-, -, -, saved⟩ :=
      check_and_generate noteWorld "note.proto" "desk.json" .standard "desk.go"
    obtain ⟨text, node, printed, -, there, holds, -⟩ := saved _ written
    exact ⟨_, text, node, written, by simpa [noteWorld] using printed, there, holds⟩
  · have contractRead : noteWorld.files.read "shop.json" = .ok (contractFor "Shop") :=
      Files.read_of_lookup rfl rfl
    have known : ContractFormat.ofPath "shop.json" = .ok .json := rfl
    have run := run_generate .standard schemaRead known contractRead
    rw [generate_shop] at run
    have refused
        : ((generate "note.proto" "shop.json" none .standard).runIn noteWorld).1
          = .error (.unknownService "Shop") := by
      rw [runIn, perform, run_bind, run]
    obtain ⟨checked, -, failed, -⟩ :=
      check_and_generate noteWorld "note.proto" "shop.json" .standard "shop.go"
    exact ⟨checked.trans refused, failed _ refused⟩

end Command

-----------------------------------------------------------------------------------------
-- Arguments
-----------------------------------------------------------------------------------------

variable {environment : String → Option String} {schema contract : String}

/-- A text that can follow an option as the path of a file. -/
def IsPath (text : String) : Prop :=
  ¬looksLikeOption text ∧ text ≠ ""

/-- Two paths are found behind their options, whatever other options a command has. -/
theorem readAll_paths (others : List OptionSpec) (hs : IsPath schema) (hc : IsPath contract)
    : Given.nothing.readAll (schemaOption :: contractOption :: others)
        ["-p", schema, "-c", contract]
      = .ok ⟨false, [("contract", contract), ("proto", schema)]⟩ := by
  have first
      : readArgument? (schemaOption :: contractOption :: others) "-p"
        = some (.ok [.awaiting schemaOption]) := rfl
  have second
      : readArgument? (schemaOption :: contractOption :: others) "-c"
        = some (.ok [.awaiting contractOption]) := rfl
  have schemaGiven
      : Given.nothing.addValue schemaOption schema = .ok ⟨false, [("proto", schema)]⟩ := by
    simp [Given.addValue, Given.nothing, schemaOption, hs.2]
  have contractGiven
      : Given.addValue ⟨false, [("proto", schema)]⟩ contractOption contract
        = .ok ⟨false, [("contract", contract), ("proto", schema)]⟩ := by
    simp [Given.addValue, contractOption, hc.2, List.lookup_cons]
  rw [Given.readAll, first]
  · change Given.readValue _ _ _ _ = _
    rw [Given.readValue, if_neg hs.1, schemaGiven]
    change Given.readAll _ _ _ = _
    rw [Given.readAll, second]
    · change Given.readValue _ _ _ _ = _
      rw [Given.readValue, if_neg hc.1, contractGiven]
      rfl
    · decide
  · decide

/-- Arguments with two paths are read as a check of these. -/
theorem ofArguments_check (hs : IsPath schema) (hc : IsPath contract)
    : Command.ofArguments environment .nothing ["check", "-p", schema, "-c", contract]
      = .ok (.check schema contract) := by
  have word : readArgument? [] "check" = none := rfl
  rw [Command.ofArguments, word]
  change (Given.readAll [schemaOption, contractOption] .nothing _ >>= _) = _
  rw [readAll_paths [] hs hc]
  rfl

/-- So they are for mocks, which go to no file and have the standard settings. -/
theorem ofArguments_generate (hs : IsPath schema) (hc : IsPath contract)
    : Command.ofArguments (fun _ => none) .nothing ["generate", "-p", schema, "-c", contract]
      = .ok (.generate schema contract none .standard) := by
  have word : readArgument? [] "generate" = none := rfl
  rw [Command.ofArguments, word]
  change (Given.readAll generateOptions .nothing _ >>= _) = _
  rw [generateOptions, readAll_paths _ hs hc]
  rfl

/-- The exit code tells whether the command succeeded, and the files are those that it left. -/
theorem run_command {files : Files} {arguments : List String} {command : Command}
    (given : Command.ofArguments environment .nothing arguments = .ok command)
    : (run files environment arguments).exitCode
        = (match (command.runIn ⟨files, ""⟩).1 with
          | .ok () => 0
          | .error _ => 1)
      ∧ (run files environment arguments).files = (command.runIn ⟨files, ""⟩).2.files := by
  rw [run, given]
  dsimp only
  rcases command.runIn ⟨files, ""⟩ with ⟨failure | ⟨⟩, after⟩ <;> exact ⟨rfl, rfl⟩

/-- As runs of the program, a check and a generation with nothing else given end with the same exit
code, and the check leaves all files as they were. -/
theorem run_check (files : Files) (hs : IsPath schema) (hc : IsPath contract)
    : (run files environment ["check", "-p", schema, "-c", contract]).exitCode
        = (run files (fun _ => none) ["generate", "-p", schema, "-c", contract]).exitCode
      ∧ (run files environment ["check", "-p", schema, "-c", contract]).files = files := by
  obtain ⟨checked, left⟩ := run_command (ofArguments_check hs hc)
  obtain ⟨generated, _⟩ := run_command (ofArguments_generate hs hc)
  rw [checked, generated, left, Command.check_result]
  exact ⟨rfl, Command.check_files⟩

end CommandLine

end GrpcMock
