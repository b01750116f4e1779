/-!
# Binary floating point

The interchange formats of IEEE 754: a bit pattern holds a sign, a biased exponent and a fraction. All
arithmetic is exact, on natural numbers and integers.
-/

namespace ByteAtlas

/-- How many bits a pattern gives to the exponent and to the fraction; the sign takes one more. -/
structure FloatFormat where
  exponentBits : Nat
  fractionBits : Nat
deriving DecidableEq, Repr

/-- The format of four bytes. -/
def FloatFormat.binary32 : FloatFormat := ⟨8, 23⟩

/-- The format of eight bytes. -/
def FloatFormat.binary64 : FloatFormat := ⟨11, 52⟩

/-- What is subtracted from a stored exponent. -/
def FloatFormat.bias (format : FloatFormat) : Nat := Nat.pow 2 (format.exponentBits - 1) - 1

/-- What a bit pattern denotes. A finite number is `± mantissa * 2 ^ exponent`. -/
inductive Floating
  | nan
  | infinite (negative : Bool)
  | finite (negative : Bool) (mantissa : Nat) (exponent : Int)
deriving DecidableEq, Repr

namespace Floating

/-- Reads a bit pattern. Without a stored exponent the leading one of the mantissa is absent; with the
largest one the pattern is no number. -/
def ofBits (format : FloatFormat) (bits : Nat) : Floating :=
  let fraction := bits % Nat.pow 2 format.fractionBits
  let stored := bits / Nat.pow 2 format.fractionBits % Nat.pow 2 format.exponentBits
  let negative := bits / Nat.pow 2 (format.fractionBits + format.exponentBits) % 2 == 1
  let unit : Int := format.bias + format.fractionBits
  if stored = Nat.pow 2 format.exponentBits - 1 then
    if fraction = 0 then infinite negative else nan
  else if stored = 0 then
    finite negative fraction (1 - unit)
  else
    finite negative (Nat.pow 2 format.fractionBits + fraction) (stored - unit)

/-- The whole part of `mantissa * 2 ^ exponent`. -/
def wholePart (mantissa : Nat) (exponent : Int) : Nat :=
  match exponent with
  | .ofNat e => mantissa * Nat.pow 2 e
  | .negSucc e => mantissa / Nat.pow 2 (e + 1)

/-- `mantissa / 2 ^ shift`, rounded to the nearest natural number, a half to the even neighbour. -/
def roundShift (mantissa shift : Nat) : Nat :=
  let quotient := mantissa / Nat.pow 2 shift
  let rest := mantissa % Nat.pow 2 shift
  if 2 * rest < Nat.pow 2 shift then quotient
  else if 2 * rest = Nat.pow 2 shift then quotient + quotient % 2
  else quotient + 1

/-- The eight-byte pattern nearest to `± mantissa * 2 ^ exponent`, a half going to the even neighbour,
where that number is zero or in the range of the patterns with a leading one. A mantissa that rounds up
to `2 ^ 53` carries into the exponent. -/
def binary64 (negative : Bool) (mantissa : Nat) (exponent : Int) : BitVec 64 :=
  let sign := if negative then Nat.pow 2 63 else 0
  if mantissa = 0 then BitVec.ofNat 64 sign
  else
    let top := mantissa.log2
    let significand :=
      if top ≤ 52 then mantissa * Nat.pow 2 (52 - top) else roundShift mantissa (top - 52)
    let leading := Nat.pow 2 52
    BitVec.ofNat 64 (sign + ((top + exponent + 1023).toNat * leading + (significand - leading)))

/-- The eight-byte pattern of a number, exact for all that four bytes hold. Every `nan` becomes the
quiet one without payload. -/
def widen : Floating → BitVec 64
  | nan => 0x7FF8000000000000#64
  | infinite false => 0x7FF0000000000000#64
  | infinite true => 0xFFF0000000000000#64
  | finite negative mantissa exponent => binary64 negative mantissa exponent

end Floating
end ByteAtlas
