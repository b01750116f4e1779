/-!
# Hexadecimal text

Bytes as pairs of lower-case digits, and numbers with `0x` in front.
-/

namespace ByteAtlas.Text

/-- The digit of a number below sixteen. -/
def hexDigit (n : Nat) : Char := Nat.digitChar n

/-- The two digits of a byte. -/
def hexPair (b : UInt8) : List Char := [hexDigit (b.toNat / 16), hexDigit (b.toNat % 16)]

/-- The bytes as pairs of digits with a space between them. -/
def hexBytes (bytes : List UInt8) : String :=
  String.ofList ((bytes.map hexPair).intersperse [' ']).flatten

/-- The digits of a number in base sixteen, filled up with zeros in front. -/
def hexDigits (width n : Nat) : List Char :=
  let digits := Nat.toDigits 16 n
  List.replicate (width - digits.length) '0' ++ digits

/-- A number in base sixteen with at least `width` digits. -/
def hexNumber (width n : Nat) : String := String.ofList ('0' :: 'x' :: hexDigits width n)

/-- The value of a digit in base sixteen, in either case. -/
def hexValue? (c : Char) : Option Nat :=
  if '0' ≤ c ∧ c ≤ '9' then some (c.toNat - '0'.toNat)
  else if 'a' ≤ c ∧ c ≤ 'f' then some (c.toNat - 'a'.toNat + 10)
  else if 'A' ≤ c ∧ c ≤ 'F' then some (c.toNat - 'A'.toNat + 10)
  else none

/-- The value of a digit in base ten. -/
def decimalValue? (c : Char) : Option Nat :=
  if '0' ≤ c ∧ c ≤ '9' then some (c.toNat - '0'.toNat) else none

/-- The number that digits spell in a base, the most significant first; none if there are no digits or
one of the characters is not a digit. -/
def readDigits? (base : Nat) (value? : Char → Option Nat) : List Char → Option Nat
  | [] => none
  | digits => digits.foldlM (fun n c => (value? c).map (base * n + ·)) 0

/-- As `readDigits?`, with one plus sign allowed in front. -/
def readSigned? (base : Nat) (value? : Char → Option Nat) : List Char → Option Nat
  | '+' :: digits => readDigits? base value? digits
  | digits => readDigits? base value? digits

end ByteAtlas.Text
