import ByteAtlas.Offset
import ByteAtlas.Number.Decimal

/-!
# Values

A value is what a scalar field holds: its base type together with its bits. The numbers read from it are
exact; where one has to be cut or rounded the function says how.
-/

namespace ByteAtlas

/-- The widths of integers, in bytes. -/
inductive IntWidth
  | one | two | four | eight
deriving DecidableEq, Repr

/-- How many bytes an integer of this width takes. -/
def IntWidth.bytes : IntWidth → Nat
  | one => 1
  | two => 2
  | four => 4
  | eight => 8

/-- How the bits of a scalar are read. -/
inductive BaseType
  | unsigned (width : IntWidth)
  | signed (width : IntWidth)
  | single
  | double
deriving DecidableEq, Repr

namespace BaseType

/-- How many bytes a scalar of this type takes. -/
def width : BaseType → Nat
  | unsigned w | signed w => w.bytes
  | single => 4
  | double => 8

/-- Every scalar takes some bytes. -/
theorem width_pos (base : BaseType) : 0 < base.width := by
  cases base with
  | unsigned w | signed w => cases w <;> decide
  | single | double => decide

/-- All base types, the unsigned ones first. -/
def all : List BaseType :=
  [unsigned .one, unsigned .two, unsigned .four, unsigned .eight,
    signed .one, signed .two, signed .four, signed .eight, single, double]

/-- The word for a base type in a description. -/
def keyword : BaseType → String
  | unsigned .one => "u8"
  | unsigned .two => "u16"
  | unsigned .four => "u32"
  | unsigned .eight => "u64"
  | signed .one => "i8"
  | signed .two => "i16"
  | signed .four => "i32"
  | signed .eight => "i64"
  | single => "f32"
  | double => "f64"

/-- The floating-point format of a base type, if it is one. -/
def floatFormat? : BaseType → Option FloatFormat
  | single => some .binary32
  | double => some .binary64
  | _ => none

end BaseType

/-- A base type and bits to be read as it says. -/
structure Value where
  base : BaseType
  bits : BitVec (8 * base.width)
deriving DecidableEq, Repr

namespace Value

/-- The number of an unsigned integer. -/
def unsigned? (v : Value) : Option Nat :=
  match v.base with
  | .unsigned _ => some v.bits.toNat
  | _ => none

/-- The number of an integer, if sixty-four signed bits hold it. -/
def signed? (v : Value) : Option Int :=
  match v.base with
  | .unsigned _ => if v.bits.toNat < Nat.pow 2 63 then some v.bits.toNat else none
  | .signed _ => some v.bits.toInt
  | _ => none

/-- The number of a floating-point value. -/
def floating? (v : Value) : Option Floating :=
  v.base.floatFormat?.map (Floating.ofBits · v.bits.toNat)

/-- The eight-byte floating-point pattern nearest to the value, a half going to the even neighbour. -/
def toDouble (v : Value) : BitVec 64 :=
  match v.base with
  | .unsigned _ => Floating.binary64 false v.bits.toNat 0
  | .signed _ => Floating.binary64 (v.bits.toInt < 0) v.bits.toInt.natAbs 0
  | .single => (Floating.ofBits .binary32 v.bits.toNat).widen
  | .double => BitVec.ofNat 64 v.bits.toNat

/-- The value as a number of bytes or repetitions: the whole part, cut off at the largest length, and
zero where the value is negative or no number. -/
def toCount (v : Value) : Nat :=
  match v.base with
  | .unsigned _ => v.bits.toNat
  | .signed _ => v.bits.toInt.toNat
  | .single | .double =>
    match v.floating? with
    | some (.finite false mantissa exponent) => min (Floating.wholePart mantissa exponent) maxOffset
    | _ => 0

/-- The value as text. -/
def toText (v : Value) : String :=
  match v.base with
  | .unsigned _ => toString v.bits.toNat
  | .signed _ => toString v.bits.toInt
  | .single => (Floating.ofBits .binary32 v.bits.toNat).toText .binary32
  | .double => (Floating.ofBits .binary64 v.bits.toNat).toText .binary64

end Value
end ByteAtlas
