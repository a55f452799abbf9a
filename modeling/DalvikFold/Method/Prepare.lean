import DalvikFold.Handler.Dispatch

namespace DalvikFold

/-!
Preparation: dispatching a whole method body.

The instructions are dispatched in order, and the first one that cannot be
dispatched, or that a policy does not tolerate, stops the preparation.  Apart
from that the policies change nothing: notes are kept under every policy.
-/

/-- The body of a method. -/
structure MethodBody where
  descriptor : String
  instructions : List Instruction
  deriving Repr, DecidableEq

/-- The registers that a body needs: one more than the highest number among all
its operands. -/
def MethodBody.registerCount (body : MethodBody) : Nat :=
  ((body.instructions.flatMap Instruction.operands).filterMap Operand.register?).foldl
    (fun count number => max count (number.toNat + 1)) 0

/-- A method with one dispatch for each instruction. -/
structure PreparedMethod where
  descriptor : String
  dispatches : List Dispatch
  deriving Repr, DecidableEq

namespace PreparedMethod

/-- The notes about the instructions of a method. -/
def diagnostics (method : PreparedMethod) : List Diagnostic :=
  method.dispatches.filterMap Dispatch.diagnostic?

def notWiredCount (method : PreparedMethod) : Nat :=
  method.dispatches.countP Dispatch.isNotWired

def fallbackCount (method : PreparedMethod) : Nat :=
  method.dispatches.countP Dispatch.isFallback

end PreparedMethod

/-- What stops the preparation of a method. -/
inductive PreparationError where
  /-- An instruction that no handler can be built from. -/
  | construction (method : String) (index : Nat) (source : ConstructionError)
  /-- A note that a policy does not tolerate. -/
  | aborted (method : String) (diagnostic : Diagnostic)
  deriving Repr, DecidableEq

def PreparationError.message : PreparationError -> String
  | .construction method index source =>
      method ++ ": cannot build handler at index " ++ Text.decimal index ++ ": " ++
        source.message
  | .aborted method diagnostic => method ++ ": preparation aborted: " ++ diagnostic.message

/-- The policy for a cause. -/
def Settings.policy (settings : Settings) : DiagnosticCause -> Policy
  | .fallback _ => settings.fallbackPolicy
  | .notWired _ => settings.notWiredPolicy

/-- The note about a dispatched instruction, if a policy gives the method up
for it. -/
def Settings.intolerable? (settings : Settings) (dispatch : Dispatch) : Option Diagnostic :=
  dispatch.diagnostic?.filter (fun diagnostic => settings.policy diagnostic.cause == .abort)

/-- The dispatches of instructions that start at a position. -/
def prepareFrom (settings : Settings) (method : String) :
    Nat -> List Instruction -> Except PreparationError (List Dispatch)
  | _, [] => .ok []
  | index, instruction :: rest =>
      match Dispatch.ofInstruction settings instruction index with
      | .error source => .error (.construction method index source)
      | .ok dispatch =>
          match settings.intolerable? dispatch with
          | some diagnostic => .error (.aborted method diagnostic)
          | none => (prepareFrom settings method (index + 1) rest).map (dispatch :: ·)

def MethodBody.prepare (body : MethodBody) (settings : Settings) :
    Except PreparationError PreparedMethod :=
  (prepareFrom settings body.descriptor 0 body.instructions).map
    (fun dispatches => ⟨body.descriptor, dispatches⟩)

end DalvikFold
