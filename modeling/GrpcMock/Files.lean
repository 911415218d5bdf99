import GrpcMock.Text.Split

/-!
A small tree of files, each known by its path. Reading and writing fail for the reasons for which a
file system refuses them.
-/

namespace GrpcMock

open GrpcMock.Text (split)

/-- Why a file cannot be read or written. -/
inductive FileFault where
  | notFound
  /-- The path goes on below a file. -/
  | notDirectory
  | isDirectory
  /-- Any other reason, such as content that is no text. -/
  | other
  deriving DecidableEq, Repr

/-- What stands at a path. -/
structure Node where
  /-- The bytes of a file. A directory has none. -/
  bytes : Option ByteArray
  readable : Bool
  writable : Bool

namespace Node

/-- A file with a text, open to reading and writing. -/
def ofText (text : String) : Node := ⟨some text.toUTF8, true, true⟩

/-- The text of a file. One that is closed to reading, or holds no text, does not give any. -/
def text? (node : Node) : Option String :=
  if node.readable then node.bytes.bind String.fromUTF8? else none

end Node

/-- What stands at a path, by the parts of the path from the root of the tree inwards. Directories
with something in them need not be listed. -/
abbrev Files := List (List String × Node)

namespace Files

/-- The parts of a path that lead somewhere. The root of everything is a part of its own, because a
path that does not begin there stays inside the tree. -/
def pathParts (path : String) : List String :=
  let parts := (split '/' path).filter fun part => part ≠ "" && part ≠ "."
  if path.toList.head? = some '/' then "/" :: parts else parts

/-- Whether a path can only be that of a directory. -/
def endsInDirectory (path : String) : Bool :=
  (split '/' path).getLast?.any fun part => part = "" || part = "."

/-- The root is a directory, and so is everything with something below it. -/
def isDirectory (files : Files) (parts : List String) : Bool :=
  match files.lookup parts with
  | some node => node.bytes.isNone
  | none => parts.isEmpty || files.any fun entry => parts.isPrefixOf entry.1

/-- Whether the place where a file stands or would stand can be changed. -/
def isWritable (files : Files) (parts : List String) : Bool :=
  (files.lookup parts).all (·.writable)

/-- Why there is nothing at a path: it goes on below a file, or leads nowhere. -/
def absence (files : Files) (parts : List String) : FileFault :=
  if files.any (fun entry => entry.2.bytes.isSome && entry.1.isPrefixOf parts) then .notDirectory
  else .notFound

/-- The text of a file. -/
def read (files : Files) (path : String) : Except FileFault String :=
  let parts := pathParts path
  if path.isEmpty then .error .notFound
  else if isDirectory files parts then .error .isDirectory
  else
    match files.lookup parts with
    | none => .error (absence files parts)
    | some node =>
        if endsInDirectory path then .error .notDirectory
        else
          match node.text? with
          | none => .error .other
          | some text => .ok text

/-- Puts something in a place where there is something or room for it. -/
def replace (parts : List String) (node : Node) : Files → Files
  | [] => [(parts, node)]
  | (other, held) :: rest =>
      if other = parts then (other, node) :: rest
      else (other, held) :: replace parts node rest

/-- A file that is there gets a new text; one that is not there can be made in a directory. -/
def write (files : Files) (path text : String) : Except FileFault Files :=
  let parts := pathParts path
  if path.isEmpty then .error .notFound
  else if isDirectory files parts then .error .isDirectory
  else
    match files.lookup parts with
    | some node =>
        if endsInDirectory path then .error .notDirectory
        else if node.writable then
          .ok (replace parts { node with bytes := some text.toUTF8 } files)
        else .error .other
    | none =>
        if endsInDirectory path then .error .isDirectory
        else if !isDirectory files parts.dropLast then .error (absence files parts)
        else if isWritable files parts.dropLast then .ok (replace parts (.ofText text) files)
        else .error .other

end Files

end GrpcMock
