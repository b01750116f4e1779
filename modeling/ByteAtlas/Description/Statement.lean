import ByteAtlas.Description.Item
import ByteAtlas.Description.Token

/-!
# Statements of a description

A statement is a run of words and quoted texts up to the mark that ends it: an item ends with a semicolon,
a heading and the name of a group with an opening brace, and a closing brace stands alone.
-/

namespace ByteAtlas.Description

/-- Words and quoted texts with the mark that ends them. -/
structure Statement where
  atoms : List Atom
  mark : Mark
deriving DecidableEq, Repr

/-- A line of a description as it is written. -/
abbrev WrittenLine := Line Heading WrittenItem (List Char)

namespace Statement

/-- The statements that tokens form, if a mark ends the last one. -/
def ofTokens? : List Token → Option (List Statement)
  | [] => some []
  | .mark m :: rest => (ofTokens? rest).map (⟨[], m⟩ :: ·)
  | .atom a :: rest =>
    match ofTokens? rest with
    | some (s :: more) => some (⟨a :: s.atoms, s.mark⟩ :: more)
    | _ => none

/-- A name. -/
def name? (word : String) : Option String := if isName word then some word else none

/-- What may follow the name of a scalar field: a colour, then a name to bind. -/
def colorAndBind? : List Atom → Option (Color × Option String)
  | [] => some (default, none)
  | [.word color] => (Color.ofName? color).map (·, none)
  | [.word "as", .word bound] => (name? bound).map (default, some ·)
  | [.word color, .word "as", .word bound] => do
    let color ← Color.ofName? color
    let bound ← name? bound
    some (color, some bound)
  | _ => none

/-- What may follow the count of a field of bytes: a colour. -/
def color? : List Atom → Option Color
  | [] => some default
  | [.word color] => Color.ofName? color
  | _ => none

/-- The word of a count. -/
def count? (word : String) : Option String := if isCount word then some word else none

/-- What an embedded format repeats and how often, after its keyword and its name. A count stands there
if the keyword fixes none. -/
def target? : Option (Times String) → List Atom → Option (Times String × String)
  | some times, [.word target] => (name? target).map (times, ·)
  | none, [.word count, .word target] => do
    let count ← count? count
    let target ← name? target
    some (.count count, target)
  | _, _ => none

/-- An embedded format after its keyword: a name may come first. -/
def embed? (fixed : Option (Times String)) : List Atom → Option WrittenItem
  | .quoted name :: rest =>
    (target? fixed rest).map fun (times, target) => .embed (some name) times target
  | rest => (target? fixed rest).map fun (times, target) => .embed none times target

/-- An item without the semicolon that ends it. -/
def item? : List Atom → Option WrittenItem
  | .word "bytes" :: .quoted name :: .word count :: rest => do
    let count ← count? count
    let color ← color? rest
    some (.bytes name count color)
  | .word "child" :: rest => embed? (some .once) rest
  | .word "sequence" :: rest => embed? (some .unbounded) rest
  | .word "array" :: rest => embed? none rest
  | .word type :: .quoted name :: rest =>
    if type ∈ scalarWords then
      (colorAndBind? rest).map fun (color, bind) => .scalar type name color bind
    else none
  | _ => none

/-- The clauses of a heading. -/
def clauses? : List Atom → Option (List Clause)
  | [] => some []
  | .word "extension" :: .quoted body :: rest => (clauses? rest).map (.extension body :: ·)
  | .word "magic" :: .quoted body :: rest => (clauses? rest).map (.magicText body :: ·)
  | .word "magic" :: .word hex :: rest =>
    if isHexNumber hex then (clauses? rest).map (.magicHex hex :: ·) else none
  | _ => none

/-- The line that a statement is. -/
def line? : Statement → Option WrittenLine
  | ⟨atoms, .semicolon⟩ => (item? atoms).map .item
  | ⟨[], .closing⟩ => some .close
  | ⟨[.word "group", .quoted name], .opening⟩ => some (.group name)
  | ⟨.word "format" :: .word name :: rest, .opening⟩ => do
    let name ← name? name
    let clauses ← clauses? rest
    some (.heading ⟨name, clauses⟩)
  | _ => none

end Statement
end ByteAtlas.Description
