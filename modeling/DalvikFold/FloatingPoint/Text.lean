import DalvikFold.FloatingPoint.Format

/-!
The text of a floating-point number.

A number is written in positional notation with the fewest digits that read
back as the same word, and of those the digits nearest to the number.  Zero
keeps its sign, and neither a final `.0` nor an exponent is ever written.
-/

namespace DalvikFold
namespace Decimal

/-!
## The shortest decimal number inside an interval

A floating-point number stands for every real that rounds to it, and a decimal
number inside that interval reads back as the number itself.  The multiples of
a power of ten form a grid, and the coarsest grid that meets the interval holds
the decimal numbers with the fewest digits.  On each grid only the two
neighbours of the number itself need a test, because the number lies inside its
interval.
-/

/-- The decimal number with the given digits, times a power of ten. -/
structure Number where
  digits : Nat
  exponent : Int
  deriving Repr, DecidableEq

/-- The reals that round to a number, all three bounds over one denominator.
The ends belong to the interval if it is closed. -/
structure Interval where
  low : Nat
  value : Nat
  high : Nat
  denominator : Nat
  closed : Bool

namespace Interval

/-- Whether a grid point lies in the interval, with the interval scaled so that
the grid point is a whole number. -/
def holds (interval : Interval) (scale point : Nat) : Bool :=
  if interval.closed then
    interval.low * scale ≤ point && point ≤ interval.high * scale
  else
    interval.low * scale < point && point < interval.high * scale

/-- The point of the grid with the given exponent that lies in the interval.
If both neighbours of the value do, it is the nearer one, and the larger one in
the middle. -/
def onGrid (interval : Interval) (exponent : Int) : Option Number :=
  let scale := Nat.pow 10 (-exponent).toNat
  let step := interval.denominator * Nat.pow 10 exponent.toNat
  let below := interval.value * scale / step
  let rest := interval.value * scale % step
  let holdsBelow := interval.holds scale (below * step)
  let holdsAbove := interval.holds scale ((below + 1) * step)
  if holdsBelow && (!holdsAbove || 2 * rest < step) then
    some ⟨below, exponent⟩
  else if holdsAbove then
    some ⟨below + 1, exponent⟩
  else
    none

/-- The shortest decimal number in the interval.  The search starts above the
leading digit of the value, and it has an end if the denominator divides a
power of ten that it reaches, because the value is then a grid point itself. -/
def shortest (interval : Interval) (depth : Nat) : Option Number :=
  let start := (Nat.toDigits 10 (interval.value / interval.denominator)).length
  (List.range (start + depth + 1)).findSome?
    (fun (offset : Nat) => interval.onGrid ((start : Int) - (offset : Int)))

end Interval

/-!
## Positional notation

The digits are written out in full, with as many zeros as the power of ten
needs and never with an exponent.  A point stands before the first digit that
counts less than one, and a whole number has no point.
-/

/-- The digits of a decimal number at their places. -/
def Number.positional (number : Number) : List Char :=
  let digits := Nat.toDigits 10 number.digits
  let places := (-number.exponent).toNat
  if places = 0 then
    digits ++ List.replicate number.exponent.toNat '0'
  else
    let padded := List.replicate (places + 1 - digits.length) '0' ++ digits
    let whole := padded.length - places
    padded.take whole ++ '.' :: padded.drop whole

end Decimal

namespace FloatingPoint

/-! ## The text of a word -/

namespace Format

variable {width : Nat}

/-- The reals that round to a code: they reach half-way to the neighbouring
codes, and the ends round to even codes.  Twice the unit is the common
denominator. -/
def interval (format : Format width) (code : Nat) : Decimal.Interval where
  low := format.magnitude (code - 1) + format.magnitude code
  value := 2 * format.magnitude code
  high := format.magnitude code + format.magnitude (code + 1)
  denominator := 2 <<< format.unitShift
  closed := code % 2 == 0

/-- The digits of the number with the given code. -/
def digits (format : Format width) (code : Nat) : List Char :=
  if code = 0 then
    ['0']
  else
    match (format.interval code).shortest (format.unitShift + 1) with
    | some number => number.positional
    | none => []

def text (format : Format width) (bits : BitVec width) : List Char :=
  let code := format.code bits
  let sign := if bits.msb then ['-'] else []
  if code < format.infinityCode then
    sign ++ format.digits code
  else if code = format.infinityCode then
    sign ++ ['i', 'n', 'f']
  else
    ['N', 'a', 'N']

end Format

end FloatingPoint
end DalvikFold
