import DalvikFold.Handler.Effect

namespace DalvikFold

/-!
Handlers: effects bound to the position of their instruction.

A handler either combines two operands, loads a constant, or falls back.  The
fallback keeps one unsupported instruction from failing a whole method: it does
nothing but forget the register that the instruction would have written, so
that no stale value survives it.  Every handler writes at most one register,
and does so last, so that a failure leaves the registers as they were.
-/

/-- The effect of a handler. -/
inductive Effect where
  | binary (effect : BinaryEffect)
  | load (effect : LoadEffect)
  | fallback
  deriving Repr, DecidableEq

/-- An effect with the instruction it stands for and the position of that
instruction in its method. -/
structure Handler where
  instruction : Instruction
  index : Nat
  effect : Effect
  deriving Repr, DecidableEq

/-- What a handler tells the run about itself: it had its effect, or it has
none to offer. -/
inductive Step where
  | next
  | unsupported
  deriving Repr, DecidableEq

namespace Handler

def binary (instruction : Instruction) (index : Nat) : Except ConstructionError Handler :=
  (instruction.binaryEffect index).map (fun effect => ⟨instruction, index, .binary effect⟩)

def load (instruction : Instruction) (index : Nat) : Except ConstructionError Handler :=
  (instruction.loadEffect index).map (fun effect => ⟨instruction, index, .load effect⟩)

/-- The handler of an instruction that falls back.  It takes any operands. -/
def fallback (instruction : Instruction) (index : Nat) : Handler :=
  ⟨instruction, index, .fallback⟩

end Handler

def Effect.category : Effect -> Category
  | .binary _ => .binaryArithmetic
  | .load _ => .constant
  | .fallback => .unimplemented

/-- The value of a right operand.  A literal is an int. -/
def RightOperand.read (operand : RightOperand) (registers : RegisterFile) :
    Except ExecutionError Value :=
  match operand with
  | .register number => registers.read number
  | .literal bits => .ok (.int bits)

/-- The register to blame for a right operand of the wrong width.  A literal is
never wrong, so the left register stands in for it. -/
def BinaryEffect.rightRegister (effect : BinaryEffect) : UInt16 :=
  match effect.right with
  | .register number => number
  | .literal _ => effect.left

/-- The value that an arithmetic effect computes.  It reads both operands
before it looks at either, and what it computes from an unknown operand is
unknown. -/
def BinaryEffect.result [NaNResults] (effect : BinaryEffect) (registers : RegisterFile) :
    Except ExecutionError Value := do
  let left <- registers.read effect.left
  let right <- effect.right.read registers
  if left.isKnown && right.isKnown then
    effect.operation.evaluate effect.left effect.rightRegister left right
  else
    return .unknown

namespace Handler

/-- What a handler makes of the registers, and what it says about itself. -/
def execute [NaNResults] (handler : Handler) (registers : RegisterFile) :
    Except ExecutionError (Step × RegisterFile) :=
  match handler.effect with
  | .binary effect => do
      let result <- effect.result registers
      let registers <- registers.assign effect.dest result
      return (.next, registers)
  | .load effect => do
      let registers <- registers.assign effect.dest effect.constant.value
      return (.next, registers)
  | .fallback =>
      match handler.instruction.destination? with
      | some dest => do
          let registers <- registers.assign dest .unknown
          return (.unsupported, registers)
      | none => .ok (.unsupported, registers)

end Handler

end DalvikFold
