import GrpcMock.Failure

/-!
What the program does to the outside: it reads and writes files, and prints. What it does is written
for any host; the host of a `World` answers from a tree of files.
-/

namespace GrpcMock

structure Host (m : Type → Type) where
  read (path : String) : m (Except FileFault String)
  write (path text : String) : m (Except FileFault Unit)
  print (text : String) : m Unit

/-- An action on the outside that may fail. What was done before a failure stays done. -/
abbrev Action (m : Type → Type) := ExceptT Failure m

namespace Host

variable {m : Type → Type} [Monad m] (host : Host m)

/-- The text in a file. -/
def text (path : String) : Action m String :=
  ExceptT.mk do
    let result ← host.read path
    return result.mapError .unreadable

/-- Writes a text to a file. -/
def save (path text : String) : Action m Unit :=
  ExceptT.mk do
    let result ← host.write path text
    return result.mapError .unreadable

def say (text : String) : Action m Unit :=
  ExceptT.lift (host.print text)

end Host

/-- A computation that does nothing to the outside. -/
def Action.ofExcept {m : Type → Type} [Monad m] {α : Type} (result : Except Failure α)
    : Action m α :=
  ExceptT.mk (pure result)

/-- The files, and what was printed so far. -/
structure World where
  files : Files
  printed : String

/-- Reads and writes the files of a world, and adds to what was printed. -/
def Host.world : Host (StateM World) where
  read path world := (world.files.read path, world)
  write path text world :=
    match world.files.write path text with
    | .error fault => (.error fault, world)
    | .ok files => (.ok (), { world with files })
  print text world := ((), { world with printed := world.printed ++ text })

end GrpcMock
