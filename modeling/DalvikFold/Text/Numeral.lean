namespace DalvikFold
namespace Text

/-!
Numerals: the texts of whole numbers, and the numbers that digits stand for.

Numbers are written without leading zeros, in decimal or in lower-case
hexadecimal digits.  Reading takes digits of either case, any number of leading
zeros, and nothing but ASCII digits.
-/

def decimal (n : Nat) : String :=
  n.repr

def hexadecimal (n : Nat) : String :=
  String.ofList (Nat.toDigits 16 n)

/-- An integer in decimal digits, with a minus sign if it is negative. -/
def signedDecimal (n : Int) : String :=
  if n < 0 then "-" ++ decimal n.natAbs else decimal n.natAbs

/-- An integer in decimal digits, always with a sign. -/
def explicitlySigned (n : Int) : String :=
  if n < 0 then "-" ++ decimal n.natAbs else "+" ++ decimal n.natAbs

/-- An integer as a sign, if it is negative, and a marked hexadecimal numeral. -/
def signedHexadecimal (n : Int) : String :=
  (if n < 0 then "-0x" else "0x") ++ hexadecimal n.natAbs

/-- The number that an ASCII digit stands for, letters included. -/
def digitValue? (c : Char) : Option Nat :=
  if '0' ≤ c ∧ c ≤ '9' then
    some (c.toNat - '0'.toNat)
  else if 'a' ≤ c ∧ c ≤ 'z' then
    some (c.toNat - 'a'.toNat + 10)
  else if 'A' ≤ c ∧ c ≤ 'Z' then
    some (c.toNat - 'A'.toNat + 10)
  else
    none

/-- The digit of the given base that a character stands for. -/
def digitInBase? (base : Nat) (c : Char) : Option Nat :=
  (digitValue? c).filter (fun digit => digit < base)

/-- The number that digits of the given base stand for, after the digits that
have been read already. -/
def readDigits? (base : Nat) : Nat -> List Char -> Option Nat
  | number, [] => some number
  | number, c :: rest =>
      match digitInBase? base c with
      | some digit => readDigits? base (number * base + digit) rest
      | none => none

/-- The number that a numeral stands for; a numeral has at least one digit. -/
def readNumeral? (base : Nat) (text : List Char) : Option Nat :=
  if text.isEmpty then none else readDigits? base 0 text

/-- The number that a numeral stands for, with a plus sign allowed before it. -/
def readUnsigned? (base : Nat) : List Char -> Option Nat
  | '+' :: text => readNumeral? base text
  | text => readNumeral? base text

/-!
## Decimal digits of every script

The standard's general category Nd consists of runs of ten consecutive code
points, one run for each set of digits, so the table lists the zero of each
run.  A listing recognises a number by these digits, and then reads its value
from ASCII digits alone.
-/

/-- The zeros of all sets of decimal digits, in ascending order. -/
def digitZeros : List Nat :=
 [0x30, 0x660, 0x6f0, 0x7c0, 0x966, 0x9e6, 0xa66, 0xae6, 0xb66, 0xbe6,
   0xc66, 0xce6, 0xd66, 0xde6, 0xe50, 0xed0, 0xf20, 0x1040, 0x1090, 0x17e0,
   0x1810, 0x1946, 0x19d0, 0x1a80, 0x1a90, 0x1b50, 0x1bb0, 0x1c40, 0x1c50,
   0xa620, 0xa8d0, 0xa900, 0xa9d0, 0xa9f0, 0xaa50, 0xabf0, 0xff10, 0x104a0,
   0x10d30, 0x10d40, 0x11066, 0x110f0, 0x11136, 0x111d0, 0x112f0, 0x11450,
   0x114d0, 0x11650, 0x116c0, 0x116d0, 0x116da, 0x11730, 0x118e0, 0x11950,
   0x11bf0, 0x11c50, 0x11d50, 0x11da0, 0x11de0, 0x11f50, 0x16130, 0x16a60,
   0x16ac0, 0x16b50, 0x16d70, 0x1ccf0, 0x1d7ce, 0x1d7d8, 0x1d7e2, 0x1d7ec,
   0x1d7f6, 0x1e140, 0x1e2f0, 0x1e4f0, 0x1e5f1, 0x1e950, 0x1fbf0]

/-- A decimal digit of any script. -/
def isDecimalDigit (c : Char) : Bool :=
  digitZeros.any (fun first => first ≤ c.toNat && c.toNat < first + 10)

end Text
end DalvikFold
