import DalvikFold.Instruction.Operand
import DalvikFold.Machine.Value

namespace DalvikFold

/-!
The registers of one invocation, and what can go wrong with them.

Every register is unknown at first.  Reading and assigning refuse a register
that the file does not have, and nothing ever changes the number of registers.
-/

/-- What stops an execution. -/
inductive ExecutionError where
  /-- A register outside the register file. -/
  | invalidRegister (register : UInt16) (count : Nat)
  /-- A register that holds no number of the width that the operation needs. -/
  | typeMismatch (register : UInt16) (expected : NumericType) (got : ValueType)
  /-- A division or remainder of whole numbers by zero. -/
  | divisionByZero
  /-- A register file larger than the settings allow. -/
  | tooManyRegisters (requested limit : Nat)
  deriving Repr, DecidableEq

def ExecutionError.message : ExecutionError -> String
  | .invalidRegister register count =>
      "register " ++ registerName register ++ " out of range (method has " ++
        Text.decimal count ++ ")"
  | .typeMismatch register expected got =>
      "type error in " ++ registerName register ++ ": expected " ++ expected.name ++ ", got " ++
        got.name
  | .divisionByZero => "division by zero"
  | .tooManyRegisters requested limit =>
      "method requests " ++ Text.decimal requested ++ " registers, limit is " ++
        Text.decimal limit

/-- The registers of one invocation. -/
structure RegisterFile where
  values : Array Value
  deriving Repr, DecidableEq

namespace RegisterFile

/-- A register file of unknown values. -/
def fresh (count : Nat) : RegisterFile :=
  ⟨Array.replicate count .unknown⟩

def count (registers : RegisterFile) : Nat :=
  registers.values.size

/-- The value of a register, if the file has it. -/
def get? (registers : RegisterFile) (register : UInt16) : Option Value :=
  registers.values[register.toNat]?

/-- The file with one register overwritten; a register that the file does not
have changes nothing. -/
def set (registers : RegisterFile) (register : UInt16) (value : Value) : RegisterFile :=
  ⟨registers.values.setIfInBounds register.toNat value⟩

def read (registers : RegisterFile) (register : UInt16) : Except ExecutionError Value :=
  match registers.get? register with
  | some value => .ok value
  | none => .error (.invalidRegister register registers.count)

/-- The file with one register overwritten. -/
def assign (registers : RegisterFile) (register : UInt16) (value : Value) :
    Except ExecutionError RegisterFile :=
  if register.toNat < registers.count then
    .ok (registers.set register value)
  else
    .error (.invalidRegister register registers.count)

/-- The registers whose values are known, with those values, in ascending
order. -/
def known (registers : RegisterFile) : List (Nat × Value) :=
  (registers.values.toList.zipIdx.filter (fun entry => entry.1.isKnown)).map
    (fun entry => (entry.2, entry.1))

@[simp]
theorem count_fresh (count : Nat) : (fresh count).count = count := by
  simp [fresh, RegisterFile.count]

@[simp]
theorem count_set (registers : RegisterFile) (register : UInt16) (value : Value) :
    (registers.set register value).count = registers.count := by
  simp [set, count]

end RegisterFile

end DalvikFold
