/-!
Association lists kept in the order of their keys. `insert` keeps every key once: a pair with a key
that is there already takes the place of the old one.
-/

namespace GrpcMock.Sorted

variable {κ α : Type} [LT κ] [DecidableLT κ] [DecidableEq κ]

def insert (key : κ) (value : α) : List (κ × α) → List (κ × α)
  | [] => [(key, value)]
  | (other, held) :: rest =>
      if key < other then (key, value) :: (other, held) :: rest
      else if key = other then (key, value) :: rest
      else (other, held) :: insert key value rest

/-- The pairs in the order of their keys; of several pairs with one key the last stays. -/
def ofList (pairs : List (κ × α)) : List (κ × α) :=
  pairs.foldl (fun sorted pair => insert pair.1 pair.2 sorted) []

/-- The value held under a key. -/
def find? (key : κ) : List (κ × α) → Option α
  | [] => none
  | (other, held) :: rest => if key = other then some held else find? key rest

end GrpcMock.Sorted
