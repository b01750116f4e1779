import ByteAtlas.Cache
import ByteAtlas.Description.Parse
import ByteAtlas.Description.Resolve
import ByteAtlas.Table
import ByteAtlas.Text.Alphanumeric

/-!
# Registries

A registry holds finished formats by name, in the order in which they were added, and guesses from the
first bytes of a source or from its name which of them it has. One format without fields is always there.
What it knows is spread over five tables; they are changed one by one when a format is added.
-/

namespace ByteAtlas

/-- The formats by their names, and the names in the order in which they were added; for every extension the
name that was added last for it; all magic bytes with their names, in order; and the largest number of
magic bytes. -/
structure Registry where
  formats : Table Format
  order : List String
  byExtension : Table String
  byMagic : List (List UInt8 × String)
  longestMagic : Nat

namespace Registry

/-- The name of the format without fields. -/
def noneName : String := "none"

/-- Nothing added. -/
def empty : Registry where
  formats := Table.empty.insert noneName .empty
  order := [noneName]
  byExtension := .empty
  byMagic := []
  longestMagic := 0

instance : Inhabited Registry := ⟨empty⟩

/-- The registered names in order. -/
def names (r : Registry) : List String := r.order

/-- The format of a name. -/
def get? (r : Registry) (name : String) : Option Format := r.formats.get? name

/-- Whether a name is registered. -/
def contains (r : Registry) (name : String) : Bool := (r.get? name).isSome

/-- Notes a name for an extension, if there is one. -/
def noteExtension (r : Registry) (name : String) : Option String → Registry
  | some extension => { r with byExtension := r.byExtension.insert extension name }
  | none => r

/-- Notes a name for magic bytes, if there are any. -/
def noteMagic (r : Registry) (name : String) : Option (List UInt8) → Registry
  | some magic =>
    { r with
      longestMagic := max r.longestMagic magic.length
      byMagic := r.byMagic ++ [(magic, name)] }
  | none => r

/-- Notes a format under a new name. -/
def noteFormat (r : Registry) (name : String) (format : Format) : Registry :=
  { r with
    order := r.order ++ [name]
    formats := r.formats.insert name format }

/-- Puts a format into all tables. -/
def enter (r : Registry) (entry : NamedFormat) : Registry :=
  ((r.noteExtension entry.name entry.signature.extension).noteMagic entry.name
    entry.signature.someMagic?).noteFormat entry.name entry.format

/-- Adds a finished format under a new name. -/
def register (r : Registry) (entry : NamedFormat) : Except Error Registry := do
  if r.contains entry.name then .error (.duplicateFormat entry.name)
  else
    entry.format.check
    .ok (r.enter entry)

/-- Adds formats one after the other, up to the first that is refused: those before it stay. Gives their
names. -/
def registerEach (r : Registry) : List NamedFormat → Except Error (List String) × Registry
  | [] => (.ok [], r)
  | entry :: more =>
    match r.register entry with
    | .error cause => (.error cause, r)
    | .ok extended =>
      let (names, left) := extended.registerEach more
      (names.map (entry.name :: ·), left)

/-- Adds the formats of definitions, which may embed registered ones. Gives their names, and the registry
as it is left, whether or not all of them could be added. -/
def addDefinitions (r : Registry) (definitions : List Description.Definition) :
    Except Error (List String) × Registry :=
  match Description.resolve r.get? definitions with
  | .error cause => (.error (.unresolvable cause), r)
  | .ok resolved =>
    match resolved.find? (r.contains ·.name) with
    | some clash => (.error (.duplicateFormat clash.name), r)
    | none => r.registerEach resolved

/-- Adds the formats of a description. Gives their names, and the registry as it is left. -/
def loadInPlace (r : Registry) (text : String) : Except Error (List String) × Registry :=
  match Description.parse text with
  | .error cause => (.error (.unparsable cause), r)
  | .ok definitions => r.addDefinitions definitions

/-- Adds the formats of a description. Gives their names, and the registry with them. -/
def load (r : Registry) (text : String) : Except Error (List String × Registry) :=
  let (names, left) := r.loadInPlace text
  names.map (·, left)

/-- The longest beginning of a source that is as long as some magic bytes and can be read. -/
def head? (r : Registry) (source : Source) : Option (List UInt8) :=
  if 0 < r.longestMagic then
    let readable := (r.byMagic.map (·.1.length)).filter fun n => (source.read 0 n).isOk
    readable.max?.bind fun n => (source.read 0 n).toOption
  else none

/-- The part of a file name after its last dot, if it is made of letters, numbers and underscores. -/
def extension? (fileName : String) : Option String :=
  if fileName.contains '.' then
    let extension := (fileName.toList.reverse.takeWhile (· ≠ '.')).reverse
    if !extension.isEmpty && extension.all (fun c => Text.isAlphanumeric c || c = '_') then
      some (String.ofList extension)
    else none
  else none

/-- The first format whose magic bytes a source begins with. -/
def guessByMagic? (r : Registry) (source : Source) : Option String := do
  let head ← r.head? source
  let (_, name) ← r.byMagic.find? (·.1.isPrefixOf head)
  some name

/-- The format added last for the extension of a source's name. -/
def guessByExtension? (r : Registry) (source : Source) : Option String := do
  let extension ← source.name.bind extension?
  r.byExtension.get? extension

/-- The format that a source seems to have: magic bytes count more than the extension of its name. -/
def guess (r : Registry) (source : Source) : String :=
  ((r.guessByMagic? source).or (r.guessByExtension? source)).getD noneName

/-- A cache over the format of a name. -/
def activate (r : Registry) (name : String) : Except Error Cache :=
  match r.get? name with
  | some format => Cache.start format
  | none => .error (.unknownFormat name)

end Registry
end ByteAtlas
