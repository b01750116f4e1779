/-!
# Errors

The causes of failure, and in one place the wording of each.
-/

namespace ByteAtlas

/-- Why a source has no answer to a read, or an entry of a directory cannot be opened. -/
inductive ReadError
  /-- The bytes asked for reach past the end of a buffer. -/
  | outOfRange (length offset : Nat)
  /-- A file ends before the last of the bytes asked for. -/
  | endOfFile
  /-- A source answered with another number of bytes than a field takes. -/
  | shortAnswer (got wanted offset : Nat)
  /-- A file has no such position. -/
  | badPosition
  /-- There is no such file. -/
  | notFound
  /-- A directory has no bytes. -/
  | isDirectory
  /-- A path goes on below a file. -/
  | notDirectory
  /-- A path or one of its segments is too long. -/
  | nameTooLong
  /-- The bytes of a text are not UTF-8. -/
  | notText
  /-- A device failed in its own way. -/
  | device (text : String)
deriving DecidableEq, Repr

/-- The wording of a failed read. -/
def ReadError.message : ReadError → String
  | outOfRange length offset => s!"read of {length} bytes at offset {offset} is out of range"
  | endOfFile => "failed to fill whole buffer"
  | shortAnswer got wanted offset => s!"short read: {got} of {wanted} bytes at offset {offset}"
  | badPosition => "Invalid argument (os error 22)"
  | notFound => "No such file or directory (os error 2)"
  | isDirectory => "Is a directory (os error 21)"
  | notDirectory => "Not a directory (os error 20)"
  | nameTooLong => "File name too long (os error 36)"
  | notText => "stream did not contain valid UTF-8"
  | device text => text

/-- Why a format cannot be built or used. -/
inductive StructuralError
  /-- A group was ended where none is open. -/
  | unmatchedEnd
  /-- A group is left open. -/
  | neverClosed (name : String)
deriving DecidableEq, Repr

/-- The wording of a structural error. -/
def StructuralError.message : StructuralError → String
  | unmatchedEnd => "endgroup without a matching group"
  | neverClosed name => "group \"" ++ name ++ "\" is never closed"

/-- Why a literal of a description has no meaning. -/
inductive LiteralError
  /-- A single-byte scalar type has no byte order. -/
  | scalarType (word : String)
  /-- A backslash is followed by something that is no escape. -/
  | escape (rest : String)
  /-- A backslash is followed by nothing. -/
  | danglingBackslash
  /-- Hexadecimal digits pair up to bytes. -/
  | oddHex
  /-- Magic bytes have to be some bytes. -/
  | emptyMagic
  /-- A count exceeds sixty-four bits. -/
  | countRange (word : String)
deriving DecidableEq, Repr

/-- The wording of a literal error. -/
def LiteralError.message : LiteralError → String
  | scalarType word => s!"Invalid scalar type: {word}"
  | escape rest => "Invalid escape: \\" ++ rest
  | danglingBackslash => "Dangling backslash in string"
  | oddHex => "Hex literal must have even length"
  | emptyMagic => "magic must not be empty"
  | countRange word => s!"Count out of range: {word}"

/-- Why a text is no description. -/
inductive ParseError
  /-- The text does not follow the grammar. -/
  | malformed
  /-- The text follows the grammar, but a literal has no meaning. -/
  | literal (cause : LiteralError)
deriving DecidableEq, Repr

/-- The wording of a parse error. -/
def ParseError.message : ParseError → String
  | malformed => "Parse error"
  | literal cause => cause.message

/-- Why the items of a definition cannot be built. -/
inductive BuildError
  /-- An item refers to a format that is not known. -/
  | unknownReference (target : String)
  /-- A call fails, with this wording. -/
  | refused (text : String)
deriving DecidableEq, Repr

/-- Why the references of a description cannot be resolved. -/
inductive ResolveError
  /-- Two definitions share a name. -/
  | duplicate (name : String)
  /-- A definition refers to a format that is not known where it stands. -/
  | unknownReference (definition target : String)
  /-- A call fails while a definition is built, with this wording. -/
  | refused (definition text : String)
deriving DecidableEq, Repr

/-- An error with the items of a definition. -/
def BuildError.within (definition : String) : BuildError → ResolveError
  | unknownReference target => .unknownReference definition target
  | refused text => .refused definition text

/-- The wording of a resolve error. -/
def ResolveError.message : ResolveError → String
  | duplicate name => s!"Duplicate format name: {name}"
  | unknownReference definition target => s!"format {definition}: Unknown format reference: {target}"
  | refused definition text => s!"format {definition}: {text}"

/-- All that can go wrong between a description and its spans. -/
inductive Error
  | structural (cause : StructuralError)
  | io (cause : ReadError)
  | offsetOverflow (offset length : Nat)
  | duplicateFormat (name : String)
  | unknownFormat (name : String)
  | unparsable (cause : ParseError)
  | unresolvable (cause : ResolveError)
deriving DecidableEq, Repr

/-- The wording of an error. -/
def Error.message : Error → String
  | structural cause => "Structural: " ++ cause.message
  | io cause => "IO: " ++ cause.message
  | offsetOverflow offset length => s!"Offset overflow: {length} bytes at offset {offset}"
  | duplicateFormat name => "Duplicate format name: " ++ name
  | unknownFormat name => "Unknown format: " ++ name
  | unparsable cause => "Parse: " ++ cause.message
  | unresolvable cause => "Parse: " ++ cause.message

end ByteAtlas
