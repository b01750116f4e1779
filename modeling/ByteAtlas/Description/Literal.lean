import ByteAtlas.Description.Word
import ByteAtlas.Error
import ByteAtlas.Offset
import ByteAtlas.Text.Hex
import ByteAtlas.Text.Utf8

/-!
# Literals of a description

What quoted texts, numbers and words for scalar types stand for, or why they stand for nothing.
-/

namespace ByteAtlas.Description

/-- The byte that two characters after `\x` stand for: two digits in base sixteen, or one after a plus
sign. -/
def escapedByte? (a b : Char) : Option UInt8 :=
  (Text.readSigned? 16 Text.hexValue? [a, b]).map UInt8.ofNat

/-- The bytes of a quoted text. -/
def unescape : List Char → Except LiteralError (List UInt8)
  | [] => .ok []
  | ['\\'] => .error .danglingBackslash
  | '\\' :: '\\' :: rest => (unescape rest).map (0x5C :: ·)
  | '\\' :: '"' :: rest => (unescape rest).map (0x22 :: ·)
  | '\\' :: 'n' :: rest => (unescape rest).map (0x0A :: ·)
  | '\\' :: 't' :: rest => (unescape rest).map (0x09 :: ·)
  | '\\' :: '0' :: rest => (unescape rest).map (0x00 :: ·)
  | '\\' :: 'x' :: a :: b :: rest =>
    match escapedByte? a b with
    | some byte => (unescape rest).map (byte :: ·)
    | none => .error (.escape (String.ofList ['x', a, b]))
  | '\\' :: 'x' :: few => .error (.escape (String.ofList ('x' :: few)))
  | '\\' :: c :: _ => .error (.escape (String.ofList [c]))
  | c :: rest => (unescape rest).map (String.utf8EncodeChar c ++ ·)

/-- The text of a quoted text: its bytes, read as far as they are well-formed. -/
def unescapeText (body : List Char) : Except LiteralError String :=
  (unescape body).map Text.Utf8.decodeLossy

/-- A count as it is written in a description. -/
inductive CountTerm
  | number (n : Nat)
  | name (word : String)
deriving DecidableEq, Repr

/-- A number within sixty-four bits. -/
def checkedNumber (word : String) (n : Option Nat) : Except LiteralError CountTerm :=
  match n with
  | some n => if n ≤ maxOffset then .ok (.number n) else .error (.countRange word)
  | none => .error (.countRange word)

/-- The count that a word stands for. -/
def readCount (word : String) : Except LiteralError CountTerm :=
  match hexDigits? word with
  | some digits => checkedNumber word (Text.readDigits? 16 Text.hexValue? digits)
  | none =>
    if isDecimal word then checkedNumber word (Text.readDigits? 10 Text.decimalValue? word.toList)
    else .ok (.name word)

/-- The scalar type that a word stands for. -/
def readScalarType (word : String) : Except LiteralError ScalarType :=
  (ScalarType.ofWord? word).elim (.error (.scalarType word)) .ok

/-- The bytes that pairs of digits in base sixteen spell. -/
def hexPairs : List Char → Except LiteralError (List UInt8)
  | [] => .ok []
  | [_] => .error .oddHex
  | a :: b :: rest =>
    (hexPairs rest).map
      (UInt8.ofNat (16 * (Text.hexValue? a).getD 0 + (Text.hexValue? b).getD 0) :: ·)

/-- Bytes that a file can begin with. -/
def checkedMagic (bytes : List UInt8) : Except LiteralError (List UInt8) :=
  if bytes.isEmpty then .error .emptyMagic else .ok bytes

end ByteAtlas.Description
