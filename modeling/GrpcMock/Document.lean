import GrpcMock.Json.Value
import GrpcMock.Sorted

/-!
Documents: what a JSON or YAML text says before its parts are given types, up to the first place
where it stops making sense. Readers of typed values walk a document in the order of its text, so
they report whichever comes first, a value of the wrong type or the place where the text breaks off.
-/

namespace GrpcMock

inductive Document where
  /-- A null, a boolean or a number. -/
  | leaf (value : Json)
  /-- A text, with what it stands for where no type is asked for, if that is anything. -/
  | text (literal : String) (meaning : Option Json)
  /-- Nothing is written, which may stand for whatever empty value is asked for. -/
  | absent (meaning : Option Json)
  /-- A list; it is not `whole` if the text breaks off inside it. If it is `positional`, it may also
  give the members of a record in their order. -/
  | list (positional : Bool) (items : List Document) (whole : Bool)
  /-- Named members; a member whose name is no text has none. -/
  | table (members : List (Option String × Document)) (whole : Bool)
  /-- A list or table with a tag, which has no meaning where no type is asked for. -/
  | tagged (content : Document)
  /-- Something that can be passed over but not read. -/
  | unsound
  /-- The text makes no sense from here on. -/
  | broken
  deriving Repr, Inhabited

namespace Document

/-- Why a document cannot be read as a value of a type. -/
inductive Fault where
  /-- The text itself is at fault. -/
  | malformed
  /-- A value is not of the type that its place asks for. -/
  | wrongType (found expected : String)
  | missingMember (name : String)
  | duplicateMember (name : String)
  /-- A list that stands for a record is too short. -/
  | tooShort (length : Nat) (record : String) (members : Nat)
  deriving DecidableEq, Repr

mutual
/-- Whether a document can be passed over, which is so unless the text breaks off inside it. -/
def passable : Document → Bool
  | .list _ items whole => whole && allPassable items
  | .table members whole => whole && allMembersPassable members
  | .tagged content => passable content
  | .broken => false
  | _ => true

def allPassable : List Document → Bool
  | [] => true
  | item :: rest => passable item && allPassable rest

def allMembersPassable : List (Option String × Document) → Bool
  | [] => true
  | (_, value) :: rest => passable value && allMembersPassable rest
end

mutual
/-- Reads a document where no type is asked for. -/
def payload : Document → Except Fault Json
  | .leaf value => .ok value
  | .text _ meaning => meaning.elim (.error .malformed) .ok
  | .absent meaning => meaning.elim (.error .malformed) .ok
  | .list _ items whole => do
      let items ← payloads items
      if whole then pure (.array items) else throw .malformed
  | .table members whole => do
      let members ← payloadMembers members
      if whole then pure (.object (Sorted.ofList members)) else throw .malformed
  | .tagged _ => .error .malformed
  | .unsound => .error .malformed
  | .broken => .error .malformed

def payloads : List Document → Except Fault (List Json)
  | [] => .ok []
  | item :: rest => do
      let item ← payload item
      let rest ← payloads rest
      pure (item :: rest)

def payloadMembers : List (Option String × Document) → Except Fault (List (String × Json))
  | [] => .ok []
  | (none, _) :: _ => .error .malformed
  | (some name, value) :: rest => do
      let value ← payload value
      let rest ← payloadMembers rest
      pure ((name, value) :: rest)
end

end Document

end GrpcMock
