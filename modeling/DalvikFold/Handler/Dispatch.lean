import DalvikFold.Handler.Basic

namespace DalvikFold

/-!
Dispatch: the handler for each instruction, and what there is to note about it.

The category of the opcode decides which effect is built.  Conditional branches
are recognised but have no effect yet, and so they get no handler at all; a run
ends in front of them.
-/

/-- What an instruction is dispatched to. -/
inductive Dispatch where
  /-- A handler that a run can execute. -/
  | handled (handler : Handler)
  /-- An opcode whose category has no effects yet, and its position. -/
  | notWired (opcode : Opcode) (index : Nat)
  deriving Repr, DecidableEq

/-- What there is to note about an instruction. -/
inductive DiagnosticCause where
  /-- It falls back. -/
  | fallback (reason : FallbackReason)
  /-- It has no handler. -/
  | notWired (category : Category)
  deriving Repr, DecidableEq

/-- A note about the instruction at a position. -/
structure Diagnostic where
  index : Nat
  opcode : Opcode
  cause : DiagnosticCause
  deriving Repr, DecidableEq

/-- The reason for a note, in words. -/
def DiagnosticCause.detail : DiagnosticCause -> String
  | .fallback reason => reason.message
  | .notWired category => category.name

def Diagnostic.message (diagnostic : Diagnostic) : String :=
  let subject :=
    "index " ++ Text.decimal diagnostic.index ++ ": " ++ diagnostic.opcode.mnemonic ++ " is " ++
      diagnostic.cause.detail
  match diagnostic.cause with
  | .fallback _ => subject
  | .notWired _ => subject ++ " but has no handler factory"

/-- The note about a handler; only those that fall back have one. -/
def Handler.diagnostic? (handler : Handler) : Option Diagnostic :=
  match handler.effect with
  | .fallback =>
      let opcode := handler.instruction.opcode
      some ⟨handler.index, opcode, .fallback opcode.fallbackReason⟩
  | _ => none

namespace Dispatch

/-- The dispatch of the instruction at a position. -/
def ofInstruction (settings : Settings) (instruction : Instruction) (index : Nat) :
    Except ConstructionError Dispatch :=
  match instruction.opcode.categoryUnder settings with
  | .binaryArithmetic => (Handler.binary instruction index).map .handled
  | .constant => (Handler.load instruction index).map .handled
  | .unimplemented => .ok (.handled (Handler.fallback instruction index))
  | .conditionalBranch => .ok (.notWired instruction.opcode index)

def index : Dispatch -> Nat
  | .handled handler => handler.index
  | .notWired _ index => index

def opcode : Dispatch -> Opcode
  | .handled handler => handler.instruction.opcode
  | .notWired opcode _ => opcode

/-- The category that the instruction was dispatched to. -/
def category : Dispatch -> Category
  | .handled handler => handler.effect.category
  | .notWired opcode _ => opcode.category

def diagnostic? : Dispatch -> Option Diagnostic
  | .handled handler => handler.diagnostic?
  | .notWired opcode index => some ⟨index, opcode, .notWired opcode.category⟩

/-- Whether the instruction has no handler. -/
def isNotWired : Dispatch -> Bool
  | .handled _ => false
  | .notWired _ _ => true

def isFallback : Dispatch -> Bool
  | .handled handler => handler.effect == .fallback
  | .notWired _ _ => false

end Dispatch

end DalvikFold
