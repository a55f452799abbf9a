import DalvikFold.FloatingPoint.Text
import DalvikFold.Text.Numeral
import DalvikFold.Text.Quoted

namespace DalvikFold

/-!
The values that registers hold.

Numbers are kept as words.  A register is untyped: whichever instruction wrote
it, a narrow register holds 32 bits and a wide one 64, and the next instruction
reads those bits as its own type.  The type that a value carries records only
who wrote it.  Wide values take a single register here.
-/

/-- The numeric types of the machine. -/
inductive NumericType where
  | int | long | float | double
  deriving Repr, DecidableEq

/-- The types of values. -/
inductive ValueType where
  | numeric (type : NumericType)
  | string
  | classObject
  | unknown
  deriving Repr, DecidableEq

/-- The contents of a register. -/
inductive Value where
  | int (bits : BitVec 32)
  | long (bits : BitVec 64)
  | float (bits : BitVec 32)
  | double (bits : BitVec 64)
  /-- A string constant. -/
  | string (text : String)
  /-- A class constant, by the descriptor of its type. -/
  | classObject (descriptor : String)
  /-- A value that is not known before the program runs. -/
  | unknown
  deriving Repr, DecidableEq

def NumericType.name : NumericType -> String
  | .int => "int"
  | .long => "long"
  | .float => "float"
  | .double => "double"

def ValueType.name : ValueType -> String
  | .numeric type => type.name
  | .string => "String"
  | .classObject => "Class"
  | .unknown => "unknown"

namespace Value

def type : Value -> ValueType
  | .int _ => .numeric .int
  | .long _ => .numeric .long
  | .float _ => .numeric .float
  | .double _ => .numeric .double
  | .string _ => .string
  | .classObject _ => .classObject
  | .unknown => .unknown

def isKnown : Value -> Bool
  | .unknown => false
  | _ => true

/-- The bits of a narrow number. -/
def narrow? : Value -> Option (BitVec 32)
  | .int bits => some bits
  | .float bits => some bits
  | _ => none

/-- The bits of a wide number. -/
def wide? : Value -> Option (BitVec 64)
  | .long bits => some bits
  | .double bits => some bits
  | _ => none

/-- The text of a value.  The suffix of a number tells its type, and an int has
none. -/
def render : Value -> String
  | .int bits => Text.signedDecimal bits.toInt
  | .long bits => Text.signedDecimal bits.toInt ++ "L"
  | .float bits => String.ofList (FloatingPoint.single.text bits) ++ "f"
  | .double bits => String.ofList (FloatingPoint.double.text bits) ++ "d"
  | .string text => Text.quote text
  | .classObject descriptor => descriptor ++ ".class"
  | .unknown => "?"

end Value

end DalvikFold
