import ByteAtlas.Description.Item

/-!
# Resolving a description

A definition becomes a format when its items are built in order and the names it embeds are replaced by formats:
those defined earlier in the same description, or else those known from elsewhere.
-/

namespace ByteAtlas.Description

/-- The count that a written one stands for. -/
def CountTerm.toCount : CountTerm → Count
  | number n => .const n
  | name word => .var word

/-- Goes on with a format as an item says, unless it embeds a name that is unknown. -/
def Item.buildOn (lookup : String → Option Format) (f : Format) : ReadItem → Except BuildError Format
  | scalar type name color bind => .ok (f.scalar ⟨name, type, color, bind⟩)
  | bytes name count color => .ok (f.bytes ⟨name, count.toCount, color⟩)
  | embed name times target =>
    match lookup target with
    | none => .error (.unknownReference target)
    | some child =>
      match times with
      | .once => .ok (f.child name child)
      | .count k => .ok (f.array name k.toCount child)
      | .unbounded => .ok (f.sequence name child)

/-- Goes on with a format as items say, up to the first that fails. A group is begun, gone on with and ended. -/
def Outline.buildOn (lookup : String → Option Format) (f : Format) : Items → Except BuildError Format
  | nil => .ok f
  | item here rest => do
    let next ← here.buildOn lookup f
    rest.buildOn lookup next
  | group name inner rest => do
    let inside ← inner.buildOn lookup (f.beginGroup name)
    let closed ← inside.endGroup.mapError fun cause => .refused cause.message
    rest.buildOn lookup closed

/-- What a name is looked up as behind earlier formats: the earlier format of the name, or else the known one. -/
def lookupBehind (known : String → Option Format) (earlier : List NamedFormat) (name : String) : Option Format :=
  (NamedFormat.find? earlier name).or (known name)

/-- Resolves definitions after earlier ones. -/
def resolveAfter (known : String → Option Format) (earlier : List NamedFormat) :
    List Definition → Except ResolveError (List NamedFormat)
  | [] => .ok []
  | d :: more =>
    if earlier.any (·.name == d.name) then .error (.duplicate d.name)
    else do
      let format ← (d.items.buildOn (lookupBehind known earlier) .empty).mapError (·.within d.name)
      let here : NamedFormat := ⟨d.name, d.signature, format⟩
      let more ← resolveAfter known (earlier ++ [here]) more
      .ok (here :: more)

/-- Resolves the definitions of a description in order. -/
def resolve (known : String → Option Format) (definitions : List Definition) :
    Except ResolveError (List NamedFormat) :=
  resolveAfter known [] definitions

end ByteAtlas.Description
