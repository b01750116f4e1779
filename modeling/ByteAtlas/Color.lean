/-!
# Colours

The palette in which fields are shown.
-/

namespace ByteAtlas

/-- The colours of the palette. -/
inductive Color
  | white | gray | blue | red | pink | green | purple | orange
deriving DecidableEq, Repr, Inhabited

namespace Color

/-- The palette in order; the first colour is the default. -/
def palette : List Color := [white, gray, blue, red, pink, green, purple, orange]

/-- The place of a colour in the palette. -/
def index (c : Color) : Nat := palette.idxOf c

/-- The word for a colour. -/
def name : Color → String
  | white => "white"
  | gray => "gray"
  | blue => "blue"
  | red => "red"
  | pink => "pink"
  | green => "green"
  | purple => "purple"
  | orange => "orange"

/-- The colour that a word names. -/
def ofName? (word : String) : Option Color := palette.find? (·.name == word)

/-- What is said about a word that names no colour. -/
def unknownMessage (word : String) : String := "Unknown color: " ++ word

/-- Every colour is found again by its word. -/
theorem ofName?_name (c : Color) : ofName? c.name = some c := by
  cases c <;> decide

end Color
end ByteAtlas
