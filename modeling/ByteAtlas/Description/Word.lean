import ByteAtlas.Color
import ByteAtlas.Scalar

/-!
# Words of a description

Words are names, numbers or scalar types by their form. Keywords and colours are names as well; only a
count is never a colour.
-/

namespace ByteAtlas.Description

/-- Whether a word can be a name: it does not begin with a digit. -/
def isName (word : String) : Bool := word.toList.head?.any (!·.isDigit)

/-- Whether a word is a number in base ten. -/
def isDecimal (word : String) : Bool := !word.isEmpty && word.toList.all (·.isDigit)

/-- A digit in base sixteen, in either case. -/
def isHexDigit (c : Char) : Bool := c.isDigit || ('a' ≤ c && c ≤ 'f') || ('A' ≤ c && c ≤ 'F')

/-- The digits of a number in base sixteen, after the two characters that begin it. -/
def hexDigits? (word : String) : Option (List Char) :=
  match word.toList with
  | '0' :: 'x' :: digits => if !digits.isEmpty && digits.all isHexDigit then some digits else none
  | _ => none

/-- Whether a word is a number in base sixteen. -/
def isHexNumber (word : String) : Bool := (hexDigits? word).isSome

/-- Whether a word stands for a count: a number, or a name that is no colour. -/
def isCount (word : String) : Bool :=
  isHexNumber word || isDecimal word || (isName word && (Color.ofName? word).isNone)

/-- The words that have the form of a scalar type. Among them are single-byte types with a byte order,
which mean nothing. -/
def scalarWords : List String :=
  BaseType.all.flatMap fun base => [base.keyword, base.keyword ++ "le", base.keyword ++ "be"]

end ByteAtlas.Description
