namespace DalvikFold
namespace FloatingPoint

/-!
Binary floating-point formats, one description for every width.

A word of a format is a sign bit above a code, and the code is an exponent
field above a fraction field.  The least positive number of a format is its
unit, and every finite number is a whole number of units.  Working in units
keeps each exact result a quotient of natural numbers, and the only place where
a result is rounded is `Format.round`.

Codes are ordered as the magnitudes they stand for, so that the neighbours of a
number have the codes just below and just above its own.
-/

/-- A format of the given width: one sign bit, the fraction bits, and the
exponent bits between them. -/
structure Format (width : Nat) where
  fractionBits : Nat

/-- The format of 32-bit numbers. -/
def single : Format 32 := ⟨23⟩

/-- The format of 64-bit numbers. -/
def double : Format 64 := ⟨52⟩

/-- What a word stands for.  The magnitude of a finite number is counted in
units of its format, and zero has a sign. -/
inductive Datum where
  | nan
  | infinite (negative : Bool)
  | finite (negative : Bool) (magnitude : Nat)
  deriving Repr, DecidableEq

namespace Format

variable {width : Nat}

def exponentBits (format : Format width) : Nat :=
  width - 1 - format.fractionBits

/-- The code of infinity; larger codes are not numbers. -/
def infinityCode (format : Format width) : Nat :=
  ((1 <<< format.exponentBits) - 1) <<< format.fractionBits

/-- The unit is two to the power of minus this number. -/
def unitShift (format : Format width) : Nat :=
  (1 <<< (format.exponentBits - 1)) - 2 + format.fractionBits

/-- The number of units that a code stands for. -/
def magnitude (format : Format width) (code : Nat) : Nat :=
  let exponent := code >>> format.fractionBits
  let fraction := code % (1 <<< format.fractionBits)
  if exponent = 0 then
    fraction
  else
    ((1 <<< format.fractionBits) + fraction) <<< (exponent - 1)

/-- The code nearest to a quotient of units; of two equally near codes, the
even one.  Quotients past the largest number round to infinity. -/
def round (format : Format width) (numerator denominator : Nat) : Nat :=
  let scale := (numerator / denominator).log2 - format.fractionBits
  let step := denominator <<< scale
  let quotient := numerator / step
  let rest := numerator % step
  let nearest :=
    if 2 * rest < step ∨ (2 * rest = step ∧ quotient % 2 = 0) then
      quotient
    else
      quotient + 1
  min ((scale <<< format.fractionBits) + nearest) format.infinityCode

/-- The code of a word, which is the word without its sign bit. -/
def code (_ : Format width) (bits : BitVec width) : Nat :=
  bits.toNat % (1 <<< (width - 1))

/-- The word with the given sign and code. -/
def word (_ : Format width) (negative : Bool) (code : Nat) : BitVec width :=
  BitVec.ofNat width (if negative then (1 <<< (width - 1)) + code else code)

/-- What a word stands for.  All words that are not numbers are one datum. -/
def decode (format : Format width) (bits : BitVec width) : Datum :=
  let code := format.code bits
  if code < format.infinityCode then
    .finite bits.msb (format.magnitude code)
  else if code = format.infinityCode then
    .infinite bits.msb
  else
    .nan

/-- The quiet word without a sign among those that are not numbers. -/
def quietNaN (format : Format width) : BitVec width :=
  format.word false (format.infinityCode + (1 <<< (format.fractionBits - 1)))

def infinity (format : Format width) (negative : Bool) : BitVec width :=
  format.word negative format.infinityCode

/-- The number nearest to a signed quotient of units. -/
def nearest (format : Format width) (negative : Bool)
    (numerator denominator : Nat) : BitVec width :=
  format.word negative (format.round numerator denominator)

end Format

end FloatingPoint
end DalvikFold
