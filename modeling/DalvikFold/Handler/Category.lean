import DalvikFold.Opcode.Format
import DalvikFold.Settings.Basic

namespace DalvikFold

/-!
Categories: which opcodes have an effect of which kind.

The classification is a table of opcode families, and it names every family
that someone has looked at.  An opcode without an entry has no effect either,
but for another reason, and reports keep the two apart.  Constant loads are
entered as having no effect; the settings can promote them.
-/

/-- The kinds of effects. -/
inductive Category where
  /-- Arithmetic on two operands. -/
  | binaryArithmetic
  /-- Loads of a literal, a string or a class. -/
  | constant
  /-- Conditional branches. -/
  | conditionalBranch
  /-- No effect of its own. -/
  | unimplemented
  deriving Repr, DecidableEq

def Category.name : Category -> String
  | .binaryArithmetic => "binary-arithmetic"
  | .constant => "constant"
  | .conditionalBranch => "conditional-branch"
  | .unimplemented => "unimplemented"

/-- Why an opcode has no effect of its own: the table says so, or the table
does not know the opcode. -/
inductive FallbackReason where
  | deliberate
  | unclassified
  deriving Repr, DecidableEq

def FallbackReason.message : FallbackReason -> String
  | .deliberate => "not implemented"
  | .unclassified => "not classified"

namespace Opcode

/-- The arithmetic operation of an opcode that has one. -/
def arithmetic? : Opcode -> Option Arithmetic
  | .arithmetic operation => some operation
  | _ => none

/-- The load of an opcode that loads a constant. -/
def constantLoad? : Opcode -> Option ConstantLoad
  | .constant load => some load
  | _ => none

/-- The entry of an opcode in the classification. -/
def classified? : Opcode -> Option Category
  | .arithmetic _ => some .binaryArithmetic
  | .branch _ | .branchZero _ => some .conditionalBranch
  | .returnVoidNoBarrier | .quickAccess _ _ | .quickInvoke _ => none
  | .invokePolymorphic _ | .invokeCustom _ | .constMethodHandle | .constMethodType => none
  | _ => some .unimplemented

def category (opcode : Opcode) : Category :=
  opcode.classified?.getD .unimplemented

/-- The category of an opcode under the given settings. -/
def categoryUnder (opcode : Opcode) (settings : Settings) : Category :=
  if settings.foldConstants && opcode.constantLoad?.isSome then
    .constant
  else
    opcode.category

/-- Why the category of an opcode is the one without an effect, if it is. -/
def fallbackReason? (opcode : Opcode) : Option FallbackReason :=
  match opcode.classified? with
  | none => some .unclassified
  | some .unimplemented => some .deliberate
  | some _ => none

/-- Why an opcode falls back.  One that has an effect falls back only when
someone asked for it, which is deliberate as well. -/
def fallbackReason (opcode : Opcode) : FallbackReason :=
  opcode.fallbackReason?.getD .deliberate

end Opcode

end DalvikFold
