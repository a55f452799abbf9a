import DalvikFold.FloatingPoint.Format
import DalvikFold.Text.Numeral

namespace DalvikFold
namespace Toml

/-!
Numbers.

An integer is decimal with an optional sign, or hexadecimal, octal or binary
without one, and fits a signed 64-bit word.  A float has a fraction, an exponent
or both.  Underscores may stand between two digits, and a decimal number has no
leading zeros.
-/

/-- The digits of a run in which underscores stand only between digits. -/
def groupedDigits? (base : Nat) (run : List Char) : Option (List Char) :=
  let groups := run.splitOn '_'
  if groups.all (fun group => (Text.readNumeral? base group).isSome) then
    some groups.flatten
  else
    none

def cutSign : List Char -> Bool × List Char
  | '-' :: rest => (true, rest)
  | '+' :: rest => (false, rest)
  | text => (false, text)

/-- The digits of a decimal number without leading zeros. -/
def wholeDigits? (run : List Char) : Option (List Char) :=
  if run.head? = some '0' ∧ run.length ≠ 1 then none else groupedDigits? 10 run

def signed (negative : Bool) (magnitude : Nat) : Int :=
  if negative then -magnitude else magnitude

/-- The integer that a text stands for, whatever its size. -/
def wholeNumber? : List Char -> Option Int
  | '0' :: 'x' :: run => unsigned 16 run
  | '0' :: 'o' :: run => unsigned 8 run
  | '0' :: 'b' :: run => unsigned 2 run
  | text =>
      let (negative, run) := cutSign text
      ((wholeDigits? run).bind (Text.readNumeral? 10)).map (signed negative)
where
  unsigned (base : Nat) (run : List Char) : Option Int :=
    ((groupedDigits? base run).bind (Text.readNumeral? base)).map Int.ofNat

/-- The integer that a text stands for. -/
def integer? (text : List Char) : Option Int :=
  (wholeNumber? text).filter (fun number =>
    Int64.minValue.toInt ≤ number && number ≤ Int64.maxValue.toInt)

/-- The exponent part of a float: absent, or a letter, a sign and digits. -/
def exponent? : List Char -> Option Int
  | [] => some 0
  | mark :: text =>
      if mark == 'e' || mark == 'E' then
        let (negative, run) := cutSign text
        ((groupedDigits? 10 run).bind (Text.readNumeral? 10)).map (signed negative)
      else
        none

/-- The code of the double nearest to a number of digits with the given power
of ten.  Powers that put the number out of reach of every format are settled
without being computed. -/
def nearestCode (digits : List Char) (power : Int) : Option Nat := do
  let number <- Text.readNumeral? 10 digits
  let format := FloatingPoint.double
  if number = 0 ∨ power + digits.length < -400 then
    return 0
  else if 400 < power then
    return format.infinityCode
  else
    return format.round ((number * Nat.pow 10 power.toNat) <<< format.unitShift)
      (Nat.pow 10 (-power).toNat)

/-- The word of a float with a fraction or an exponent.  A positive number that
is too large for every finite word is refused. -/
def finiteFloat? (text : List Char) : Option (BitVec 64) := do
  let format := FloatingPoint.double
  let (negative, unsigned) := cutSign text
  let isDigitOrBar := fun (c : Char) => c.isDigit || c == '_'
  let whole <- wholeDigits? (unsigned.takeWhile isDigitOrBar)
  match unsigned.dropWhile isDigitOrBar with
  | [] => none
  | '.' :: rest =>
      let fraction <- groupedDigits? 10 (rest.takeWhile isDigitOrBar)
      let power <- exponent? (rest.dropWhile isDigitOrBar)
      let code <- nearestCode (whole ++ fraction) (power - fraction.length)
      refuseOverflow format negative code
  | rest =>
      let power <- exponent? rest
      let code <- nearestCode whole power
      refuseOverflow format negative code
where
  refuseOverflow (format : FloatingPoint.Format 64) (negative : Bool) (code : Nat) :
      Option (BitVec 64) :=
    if !negative && code == format.infinityCode then none else some (format.word negative code)

def float? (text : List Char) : Option (BitVec 64) :=
  let format := FloatingPoint.double
  let (negative, unsigned) := cutSign text
  match String.ofList unsigned with
  | "inf" => some (format.word negative format.infinityCode)
  | "nan" => some (format.word negative (format.code format.quietNaN))
  | _ => finiteFloat? text

end Toml
end DalvikFold
