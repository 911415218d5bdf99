import GrpcMock.Text.Split

/-!
Options on a command line. An option has a long name and perhaps a letter; its value follows it as
an argument of its own, after an equals sign, or right after the letter. No option may be given
twice.
-/

namespace GrpcMock.CommandLine

open GrpcMock.Text (splitFirst? stripStart?)

/-- An option that takes a value. -/
structure OptionSpec where
  name : String
  letter : Option Char
  /-- The value names a file, so it cannot be empty. -/
  isPath : Bool
  deriving DecidableEq, Repr

/-- Why arguments make no sense. -/
inductive UsageFault where
  | unknown (argument : String)
  | noValue (option : String)
  | repeated (option : String)
  | notFlag (option : String)
  | missing (option : String)
  | noCommand
  deriving DecidableEq, Repr

/-- What was given so far. -/
structure Given where
  verbose : Bool
  values : List (String × String)
  deriving DecidableEq, Repr

def Given.nothing : Given := ⟨false, []⟩

/-- What an argument says. -/
inductive Piece where
  /-- The flag that every command knows. -/
  | verbose
  | valued (spec : OptionSpec) (value : String)
  /-- An option with its value in the next argument. -/
  | awaiting (spec : OptionSpec)
  deriving DecidableEq, Repr

/-- Whether an argument cannot be the value of the option before it. -/
def looksLikeOption (argument : String) : Bool :=
  argument.toList.head? = some '-' && argument ≠ "-"

/-- The pieces of an argument that begins with one hyphen: letters, the last of which may have a
value. -/
def readLetters (specs : List OptionSpec) : List Char → Except UsageFault (List Piece)
  | [] => .ok []
  | letter :: rest =>
      if letter = 'v' then (readLetters specs rest).map (.verbose :: ·)
      else
        match specs.find? fun spec => spec.letter == some letter with
        | none => .error (.unknown (String.ofList ['-', letter]))
        | some spec =>
            match rest with
            | [] => .ok [.awaiting spec]
            | '=' :: value => .ok [.valued spec (String.ofList value)]
            | value => .ok [.valued spec (String.ofList value)]

/-- The piece of an argument that begins with two hyphens, which are taken already. -/
def readLong (specs : List OptionSpec) (body : String) : Except UsageFault Piece :=
  let (name, value) :=
    match splitFirst? '=' body with
    | some (name, value) => (name, some value)
    | none => (body, none)
  if name = "verbose" then
    if value.isSome then .error (.notFlag name) else .ok .verbose
  else
    match specs.find? fun spec => spec.name == name, value with
    | none, _ => .error (.unknown name)
    | some spec, some value => .ok (.valued spec value)
    | some spec, none => .ok (.awaiting spec)

/-- The pieces of an argument, unless it is no option at all. -/
def readArgument? (specs : List OptionSpec) (argument : String)
    : Option (Except UsageFault (List Piece)) :=
  match stripStart? "--" argument with
  | some body => some ((readLong specs body).map ([·]))
  | none =>
      match argument.toList with
      | '-' :: letter :: rest => some (readLetters specs (letter :: rest))
      | _ => none

def Given.addVerbose (given : Given) : Except UsageFault Given :=
  if given.verbose then .error (.repeated "verbose") else .ok { given with verbose := true }

def Given.addValue (given : Given) (spec : OptionSpec) (value : String)
    : Except UsageFault Given :=
  if (given.values.lookup spec.name).isSome then .error (.repeated spec.name)
  else if spec.isPath && value.isEmpty then .error (.noValue spec.name)
  else .ok { given with values := (spec.name, value) :: given.values }

/-- Adds pieces to what was given. The option that awaits a value, if any, is the last piece. -/
def Given.add (given : Given) : List Piece → Except UsageFault (Given × Option OptionSpec)
  | [] => .ok (given, none)
  | .verbose :: rest => do
      let given ← given.addVerbose
      given.add rest
  | .valued spec value :: rest => do
      let given ← given.addValue spec value
      given.add rest
  | .awaiting spec :: _ => .ok (given, some spec)

mutual
/-- Reads options up to the end of the arguments. Two hyphens end the options, after which nothing
may come. -/
def Given.readAll (specs : List OptionSpec) (given : Given)
    : List String → Except UsageFault Given
  | [] => .ok given
  | "--" :: rest =>
      match rest with
      | [] => .ok given
      | argument :: _ => .error (.unknown argument)
  | argument :: rest =>
      match readArgument? specs argument with
      | none => .error (.unknown argument)
      | some pieces => do
          let (given, awaiting) ← pieces >>= given.add
          match awaiting with
          | none => given.readAll specs rest
          | some spec => given.readValue specs spec rest

/-- Takes the next argument as the value of an option and goes on. -/
def Given.readValue (specs : List OptionSpec) (spec : OptionSpec) (given : Given)
    : List String → Except UsageFault Given
  | [] => .error (.noValue spec.name)
  | value :: rest =>
      if looksLikeOption value then .error (.noValue spec.name)
      else do
        let given ← given.addValue spec value
        given.readAll specs rest
end

def Given.value? (given : Given) (name : String) : Option String :=
  given.values.lookup name

def Given.required (given : Given) (name : String) : Except UsageFault String :=
  match given.value? name with
  | some value => .ok value
  | none => .error (.missing name)

end GrpcMock.CommandLine
