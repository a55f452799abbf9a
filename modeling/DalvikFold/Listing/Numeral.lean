import DalvikFold.Text.Blank
import DalvikFold.Text.Numeral

namespace DalvikFold
namespace Listing

/-!
Registers and literals in a listing.

Recognising a number and reading its value are separate steps.  A text made of
decimal digits of any script is recognised as a number, and whatever is then
not in ASCII digits, or too large, is a number out of range.
-/

/-- Whether the text is a non-empty run of decimal digits. -/
def isDigitRun (text : List Char) : Bool :=
  !text.isEmpty && text.all Text.isDecimalDigit

/-- The number of a register that has been recognised. -/
def registerNumber? (digits : List Char) : Option UInt16 :=
  ((Text.readNumeral? 10 digits).filter (fun number => number < UInt16.size)).map UInt16.ofNat

/-- The digits of a text that is a register. -/
def registerDigits? : List Char -> Option (List Char)
  | 'v' :: digits => if isDigitRun digits then some digits else none
  | _ => none

/-- The digits of the two registers of a range, which stand on either side of
two dots, with blanks allowed around the dots. -/
def rangeDigits? : List Char -> Option (List Char × List Char)
  | 'v' :: text =>
      let first := text.takeWhile Text.isDecimalDigit
      match Text.trimLeft (text.dropWhile Text.isDecimalDigit) with
      | '.' :: '.' :: rest =>
          match registerDigits? (Text.trimLeft rest) with
          | some last => if first.isEmpty then none else some (first, last)
          | none => none
      | _ => none
  | _ => none

/-- A literal, taken apart. -/
structure Literal where
  negative : Bool
  base : Nat
  digits : List Char
  deriving Repr, DecidableEq

namespace Literal

/-- The letters that may follow a literal.  They tell its type to a reader and
change nothing. -/
def suffixes : List Char := ['L', 'l', 'T', 't', 'S', 's']

def dropSuffix (text : List Char) : List Char :=
  match text.getLast? with
  | some c => if c ∈ suffixes then text.dropLast else text
  | none => text

/-- A literal without sign and suffix. -/
def unsigned? (negative : Bool) : List Char -> Option Literal
  | '0' :: mark :: digits =>
      if mark = 'x' ∨ mark = 'X' then
        if !digits.isEmpty && digits.all (fun c => (Text.digitInBase? 16 c).isSome) then
          some ⟨negative, 16, digits⟩
        else
          none
      else if isDigitRun ('0' :: mark :: digits) then
        some ⟨negative, 10, '0' :: mark :: digits⟩
      else
        none
  | digits => if isDigitRun digits then some ⟨negative, 10, digits⟩ else none

/-- The literal that a text is, if it is one. -/
def ofText? (text : List Char) : Option Literal :=
  match dropSuffix text with
  | '-' :: rest => unsigned? true rest
  | '+' :: rest => unsigned? false rest
  | rest => unsigned? false rest

/-- The integer that a literal stands for; none if its digits are not ASCII. -/
def integer? (literal : Literal) : Option Int :=
  (Text.readNumeral? literal.base literal.digits).map
    (fun magnitude => if literal.negative then -(magnitude : Int) else (magnitude : Int))

/-- The value of a literal; none if it does not fit sixty-four bits. -/
def value? (literal : Literal) : Option Int64 :=
  (literal.integer?.filter (fun n =>
    Int64.minValue.toInt ≤ n && n ≤ Int64.maxValue.toInt)).map Int64.ofInt

end Literal

end Listing
end DalvikFold
