import ByteAtlas.Description.Literal
import ByteAtlas.Description.Outline
import ByteAtlas.NamedFormat

/-!
# Items and definitions

A definition names a format, says by what files of it are known, and lists its items. The same types serve
for a description as it is written, with literals as they stand in the text, and for one that has been
read.
-/

namespace ByteAtlas.Description

/-- How many times an embedded format repeats, with counts of type `κ`. -/
inductive Times (κ : Type)
  | once
  | count (k : κ)
  | unbounded
deriving DecidableEq, Repr

/-- A field or an embedded format, with scalar types of type `τ`, texts of type `σ` and counts of type
`κ`. -/
inductive Item (τ σ κ : Type)
  | scalar (type : τ) (name : σ) (color : Color) (bind : Option String)
  | bytes (name : σ) (count : κ) (color : Color)
  | embed (name : Option σ) (times : Times κ) (target : String)
deriving DecidableEq, Repr

/-- An item as it is written. -/
abbrev WrittenItem := Item String (List Char) String

/-- An item that has been read. -/
abbrev ReadItem := Item ScalarType String CountTerm

/-- The items of a definition. -/
abbrev Items := Outline ReadItem String

/-- A clause of a heading as it is written. -/
inductive Clause
  | extension (body : List Char)
  | magicHex (word : String)
  | magicText (body : List Char)
deriving DecidableEq, Repr

/-- The heading of a definition as it is written. -/
structure Heading where
  name : String
  clauses : List Clause
deriving DecidableEq, Repr

/-- A definition as it is written. -/
abbrev WrittenDefinition := Section Heading WrittenItem (List Char)

/-- A definition that has been read. -/
structure Definition where
  name : String
  signature : Signature
  items : Items
deriving DecidableEq, Repr

/-- Reads the count of an embedded format, if it has one. -/
def Times.read : Times String → Except LiteralError (Times CountTerm)
  | once => .ok once
  | count word => (readCount word).map count
  | unbounded => .ok unbounded

/-- Reads the literals of an item from left to right. -/
def Item.read : WrittenItem → Except LiteralError ReadItem
  | scalar word body color bind => do
    let type ← readScalarType word
    let name ← unescapeText body
    .ok (scalar type name color bind)
  | bytes body word color => do
    let name ← unescapeText body
    let count ← readCount word
    .ok (bytes name count color)
  | embed none times target => do
    let times ← times.read
    .ok (embed none times target)
  | embed (some body) times target => do
    let name ← unescapeText body
    let times ← times.read
    .ok (embed (some name) times target)

/-- Reads the literals of items from left to right. -/
def Outline.read : Outline WrittenItem (List Char) → Except LiteralError Items
  | nil => .ok nil
  | item here rest => do
    let here ← here.read
    let rest ← rest.read
    .ok (item here rest)
  | group body inner rest => do
    let name ← unescapeText body
    let inner ← inner.read
    let rest ← rest.read
    .ok (group name inner rest)

/-- Reads a clause into what the clauses before it say. Of each kind the last one counts. -/
def Clause.read (before : Signature) : Clause → Except LiteralError Signature
  | extension body => do
    let text ← unescapeText body
    .ok { before with extension := some text }
  | magicHex word => do
    let bytes ← hexPairs ((hexDigits? word).getD [])
    let magic ← checkedMagic bytes
    .ok { before with magic := some magic }
  | magicText body => do
    let bytes ← unescape body
    let magic ← checkedMagic bytes
    .ok { before with magic := some magic }

/-- Reads the literals of a definition from left to right. -/
def readDefinition (written : WrittenDefinition) : Except LiteralError Definition := do
  let signature ← written.heading.clauses.foldlM Clause.read .none
  let items ← written.body.read
  .ok ⟨written.heading.name, signature, items⟩

end ByteAtlas.Description
