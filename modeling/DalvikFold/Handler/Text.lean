import DalvikFold.Handler.Basic

namespace DalvikFold

/-!
The texts of handlers and their effects.
-/

def WholeOperator.title : WholeOperator -> String
  | .add => "Add"
  | .sub => "Sub"
  | .mul => "Mul"
  | .div => "Div"
  | .rem => "Rem"
  | .and => "And"
  | .or => "Or"
  | .xor => "Xor"

def ShiftOperator.title : ShiftOperator -> String
  | .shl => "Shl"
  | .shr => "Shr"
  | .ushr => "Ushr"

def FloatOperator.title : FloatOperator -> String
  | .add => "Add"
  | .sub => "Sub"
  | .mul => "Mul"
  | .div => "Div"
  | .rem => "Rem"

def RegisterOperation.title : RegisterOperation -> String
  | .int operator => operator.title
  | .intShift operator => operator.title
  | .long operator => operator.title
  | .longShift operator => operator.title
  | .float operator => operator.title
  | .double operator => operator.title

def Operation.title : Operation -> String
  | .direct operation => operation.title
  | .reverseSub => "Rsub"

def RightOperand.render : RightOperand -> String
  | .register number => registerName number
  | .literal bits => "#" ++ Text.signedDecimal bits.toInt

/-- The text of an arithmetic effect, with the type that it works on. -/
def BinaryEffect.render (effect : BinaryEffect) : String :=
  registerName effect.dest ++ " = " ++ registerName effect.left ++ " " ++
    effect.operation.title ++ " " ++ effect.right.render ++ " (" ++
    effect.operation.type.name ++ ")"

def LoadEffect.render (effect : LoadEffect) : String :=
  registerName effect.dest ++ " = " ++ effect.constant.value.render

/-- The line of a handler: its position, its instruction and its category. -/
def Handler.render (handler : Handler) : String :=
  String.ofList (List.leftpad 4 ' ' (Text.decimal handler.index).toList) ++ ": " ++
    handler.instruction.render ++ " [" ++ handler.effect.category.name ++ "]"

end DalvikFold
