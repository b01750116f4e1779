import ByteAtlas.Format

/-!
# Named formats

What a format is called, and by what the files are known that have it.
-/

namespace ByteAtlas

/-- By what a file is known to have a format: the extension of its name, or the bytes it begins with. -/
structure Signature where
  extension : Option String
  magic : Option (List UInt8)
deriving DecidableEq, Repr

/-- Not known by anything. -/
def Signature.none : Signature := ⟨.none, .none⟩

/-- The magic bytes of a signature, if there are any. -/
def Signature.someMagic? (signature : Signature) : Option (List UInt8) :=
  signature.magic.filter fun magic => !magic.isEmpty

/-- A format with its name and signature. -/
structure NamedFormat where
  name : String
  signature : Signature
  format : Format

/-- The format of a name among several; the first one counts. -/
def NamedFormat.find? (formats : List NamedFormat) (name : String) : Option Format :=
  (formats.find? (·.name == name)).map (·.format)

end ByteAtlas
