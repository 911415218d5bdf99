/-!
Sets of characters written as ranges of code points. A range holds both of its ends. The ranges of a
set ascend, so a character that comes before the first of some ranges is in none of them.
-/

namespace GrpcMock.Text

abbrev CodeRange := Nat × Nat

def inRanges : List CodeRange → Char → Bool
  | [], _ => false
  | (first, last) :: rest, c =>
      if c.toNat < first then false else c.toNat ≤ last || inRanges rest c

end GrpcMock.Text
