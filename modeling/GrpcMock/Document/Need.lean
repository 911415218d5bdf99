/-!
The parts of a document that a reader looks at. What a reader passes over does not have to be known,
so a document that is too large to be written out can still be read if the reader needs little of
it.
-/

namespace GrpcMock.Document

/-- What a reader looks at. It passes over all parts for which there is no need. -/
inductive Need where
  /-- All parts, and all of their parts. -/
  | everything
  /-- No part. -/
  | nothing
  /-- The items of a list. -/
  | items (need : Need)
  /-- The members of a table, whatever their names. -/
  | members (need : Need)
  /-- The members of a table with some names. -/
  | named (needs : List (String × Need))

namespace Need

/-- What is needed of an item of a list. -/
def item? : Need → Option Need
  | .everything => some .everything
  | .items need => some need
  | _ => none

/-- What is needed of a member of a table. -/
def member? (name : Option String) : Need → Option Need
  | .everything => some .everything
  | .members need => some need
  | .named needs => name.bind fun name => needs.lookup name
  | _ => none

end Need

end GrpcMock.Document
