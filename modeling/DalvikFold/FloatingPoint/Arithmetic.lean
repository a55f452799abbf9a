import DalvikFold.FloatingPoint.Format

namespace DalvikFold
namespace FloatingPoint

/-!
The five arithmetic operations on the words of a format.

Each operation takes the exact result of its operands as a quotient of units
and rounds it once, to the nearest number and to the even code in the middle.
The remainder is the one of truncated division: it has the sign of the
dividend, it is smaller than the divisor, and it is always exact.

Which word stands for a result that is not a number is left open, and so each
operation is given the word for that case.
-/

def Datum.negate : Datum -> Datum
  | .nan => .nan
  | .infinite negative => .infinite (!negative)
  | .finite negative magnitude => .finite (!negative) magnitude

namespace Format

variable {width : Nat}

/-- The sum of two data.  An exact zero is negative only if both terms are. -/
def sum (format : Format width) (notANumber : BitVec width) :
    Datum -> Datum -> BitVec width
  | .nan, _ => notANumber
  | _, .nan => notANumber
  | .infinite left, .infinite right =>
      if left = right then format.infinity left else notANumber
  | .infinite left, .finite _ _ => format.infinity left
  | .finite _ _, .infinite right => format.infinity right
  | .finite leftNegative left, .finite rightNegative right =>
      if leftNegative = rightNegative then
        format.nearest leftNegative (left + right) 1
      else if right < left then
        format.nearest leftNegative (left - right) 1
      else if left < right then
        format.nearest rightNegative (right - left) 1
      else
        format.word false 0

/-- The product of two data.  A product of units is a unit divided by two to
the power of the unit shift. -/
def product (format : Format width) (notANumber : BitVec width) :
    Datum -> Datum -> BitVec width
  | .nan, _ => notANumber
  | _, .nan => notANumber
  | .infinite left, .infinite right => format.infinity (left != right)
  | .infinite left, .finite rightNegative right =>
      if right = 0 then notANumber else format.infinity (left != rightNegative)
  | .finite leftNegative left, .infinite right =>
      if left = 0 then notANumber else format.infinity (leftNegative != right)
  | .finite leftNegative left, .finite rightNegative right =>
      format.nearest (leftNegative != rightNegative) (left * right) (1 <<< format.unitShift)

/-- The quotient of two data.  A quotient of units is a number, which is two to
the power of the unit shift as many units. -/
def quotient (format : Format width) (notANumber : BitVec width) :
    Datum -> Datum -> BitVec width
  | .nan, _ => notANumber
  | _, .nan => notANumber
  | .infinite _, .infinite _ => notANumber
  | .infinite left, .finite rightNegative _ => format.infinity (left != rightNegative)
  | .finite leftNegative _, .infinite right => format.word (leftNegative != right) 0
  | .finite leftNegative left, .finite rightNegative right =>
      if right = 0 then
        if left = 0 then notANumber else format.infinity (leftNegative != rightNegative)
      else
        format.nearest (leftNegative != rightNegative) (left <<< format.unitShift) right

def remainder (format : Format width) (notANumber : BitVec width) :
    Datum -> Datum -> BitVec width
  | .nan, _ => notANumber
  | _, .nan => notANumber
  | .infinite _, _ => notANumber
  | .finite leftNegative left, .infinite _ => format.nearest leftNegative left 1
  | .finite leftNegative left, .finite _ right =>
      if right = 0 then notANumber else format.nearest leftNegative (left % right) 1

def add (format : Format width) (notANumber left right : BitVec width) : BitVec width :=
  format.sum notANumber (format.decode left) (format.decode right)

/-- The difference of two words, which is a sum with the second sign changed. -/
def sub (format : Format width) (notANumber left right : BitVec width) : BitVec width :=
  format.sum notANumber (format.decode left) (format.decode right).negate

def mul (format : Format width) (notANumber left right : BitVec width) : BitVec width :=
  format.product notANumber (format.decode left) (format.decode right)

def div (format : Format width) (notANumber left right : BitVec width) : BitVec width :=
  format.quotient notANumber (format.decode left) (format.decode right)

def rem (format : Format width) (notANumber left right : BitVec width) : BitVec width :=
  format.remainder notANumber (format.decode left) (format.decode right)

end Format

end FloatingPoint
end DalvikFold
