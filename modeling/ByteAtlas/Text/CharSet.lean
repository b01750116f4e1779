/-!
# Character sets

A set of characters is written as the code points at which membership changes.
-/

namespace ByteAtlas.Text

/-- The code points at which a set begins or ends, in ascending order: the first begins it. -/
structure CharSet where
  changes : List Nat

/-- A character belongs to a set if an odd number of changes lie at or below it. -/
def CharSet.contains (set : CharSet) (c : Char) : Bool :=
  (set.changes.takeWhile (· ≤ c.toNat)).length % 2 == 1

end ByteAtlas.Text
