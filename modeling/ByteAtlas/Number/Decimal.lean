import ByteAtlas.Number.Floating

/-!
# Shortest decimals

A binary number is written with the fewest decimal digits that read back to it. The points of the grid of
multiples of `10 ^ p` are tried from coarse to fine: the first grid that has a point among the numbers
which round to the given one decides how many digits there are, and the nearer of its two neighbours
which they are.
-/

namespace ByteAtlas

/-- The number `coefficient * 10 ^ exponent`. -/
structure Decimal where
  coefficient : Nat
  exponent : Int
deriving DecidableEq, Repr

namespace Decimal

/-- The numbers that round to `mantissa * 2 ^ exponent`, in quarters of `2 ^ exponent`: from `low` to
`high`, the ends included when the mantissa is even. Below a power of two the neighbours lie closer. -/
structure Basin where
  low : Nat
  centre : Nat
  high : Nat
  closed : Bool

/-- The basin of a mantissa in a format with `fractionBits` bits of fraction. -/
def Basin.of (fractionBits mantissa : Nat) : Basin :=
  let low := if mantissa = Nat.pow 2 fractionBits then 4 * mantissa - 1 else 4 * mantissa - 2
  ⟨low, 4 * mantissa, 4 * mantissa + 2, mantissa % 2 == 0⟩

/-- The two factors by which multiples of `10 ^ power` and of `2 ^ exponent` become whole numbers of one
unit. -/
def commonUnit (power exponent : Int) : Nat × Nat :=
  (Nat.pow 10 power.toNat * Nat.pow 2 (-exponent).toNat,
    Nat.pow 10 (-power).toNat * Nat.pow 2 exponent.toNat)

/-- The multiple of `10 ^ power` in the basin that lies nearest to its centre, if there is one. The basin
counts in units of `2 ^ exponent`. Of two equally near ones it is the larger. -/
def Basin.gridPoint? (basin : Basin) (exponent power : Int) : Option Nat :=
  let (ten, two) := commonUnit power exponent
  let inside (c : Nat) : Bool :=
    if basin.closed then basin.low * two ≤ c * ten && c * ten ≤ basin.high * two
    else basin.low * two < c * ten && c * ten < basin.high * two
  let below := basin.centre * two / ten
  let above := below + 1
  let upNearer : Bool := above * ten - basin.centre * two ≤ basin.centre * two - below * ten
  match inside below, inside above with
  | true, true => some (if upNearer then above else below)
  | true, false => some below
  | false, true => some above
  | false, false => none

/-- A power of ten above `2 ^ bits`. -/
def powerAbove (bits : Int) : Int := bits * 30103 / 100000 + 2

/-- The shortest decimal that reads back as `mantissa * 2 ^ exponent`. No format of eight bytes needs
more than seventeen digits, so the grids are few. -/
def shortest (format : FloatFormat) (mantissa : Nat) (exponent : Int) : Decimal :=
  let basin := Basin.of format.fractionBits mantissa
  let top := powerAbove (mantissa.log2 + 1 + exponent)
  let grid (i : Nat) : Option Decimal :=
    (basin.gridPoint? (exponent - 2) (top - i)).map (⟨·, top - i⟩)
  ((List.range 25).findSome? grid).getD ⟨0, 0⟩

/-- The digits without an exponent: zeros are filled in up to the point. -/
def positional (d : Decimal) : String :=
  let digits := (toString d.coefficient).toList
  match d.exponent with
  | .ofNat zeros => String.ofList (digits ++ List.replicate zeros '0')
  | .negSucc n =>
    let padded := List.replicate (n + 2 - digits.length) '0' ++ digits
    let whole := padded.length - (n + 1)
    String.ofList (padded.take whole ++ '.' :: padded.drop whole)

end Decimal

/-- The text of a floating-point number: the shortest digits, never an exponent, and no fraction where
there is none. -/
def Floating.toText (format : FloatFormat) : Floating → String
  | nan => "NaN"
  | infinite negative => if negative then "-inf" else "inf"
  | finite negative mantissa exponent =>
    let sign := if negative then "-" else ""
    let digits := if mantissa = 0 then "0" else (Decimal.shortest format mantissa exponent).positional
    sign ++ digits

end ByteAtlas
