import ByteAtlas.Text.GraphemeExtend
import ByteAtlas.Text.Unprintable

/-!
# Quoted text

Text between double quotes in which every character shows: quotes, backslashes and line ends are escaped,
and so are characters that would leave no mark or would join the one before them.
-/

namespace ByteAtlas.Text

/-- The escape of a character by its number in base sixteen. -/
def numericEscape (c : Char) : List Char :=
  ['\\', 'u', '\x7b'] ++ Nat.toDigits 16 c.toNat ++ ['\x7d']

/-- Whether a character is one of the two halfwidth sound marks. They extend the letter before them, but
they show as characters of their own. -/
def isHalfwidthSoundMark (c : Char) : Bool := c = '\uff9e' || c = '\uff9f'

/-- Whether a character would join the one before it. -/
def joinsPrevious (c : Char) : Bool := extendsGrapheme c && !isHalfwidthSoundMark c

/-- A character of a quoted text. -/
def quotedChar (c : Char) : List Char :=
  if c = '\x00' then ['\\', '0']
  else if c = '\t' then ['\\', 't']
  else if c = '\r' then ['\\', 'r']
  else if c = '\n' then ['\\', 'n']
  else if c = '\\' ∨ c = '"' then ['\\', c]
  else if joinsPrevious c ∨ isUnprintable c then numericEscape c
  else [c]

/-- A text between quotes. -/
def quoted (s : String) : String := String.ofList ('"' :: s.toList.flatMap quotedChar ++ ['"'])

end ByteAtlas.Text
