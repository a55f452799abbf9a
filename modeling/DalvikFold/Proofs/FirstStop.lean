import DalvikFold.Proofs.Preparation

namespace DalvikFold

/-!
# Where a preparation stops

A preparation stops at the first instruction that cannot be dispatched, or whose
note a policy does not tolerate, and what is wrong there is its error.  If there
is no such instruction then it succeeds, and it has dispatched every instruction
at its own position.

The notes about a method are read off its dispatches.  They can be taken along
the way as well, each once its policy has let the preparation go on, and that
makes no difference.

Policies have no part in what a preparation makes of a method, and neither has
any other setting but the folding of constants.  One preparation that succeeds
therefore decides all others of the same body: its notes say where a policy
would have stopped it.
-/

/-! ## Stops -/

/-- What stops a preparation at an instruction. -/
inductive Instruction.Stops (settings : Settings) (method : String) (instruction : Instruction)
    (index : Nat) : PreparationError -> Prop where
  /-- No handler can be built. -/
  | construction {source : ConstructionError}
      (fails : Dispatch.ofInstruction settings instruction index = .error source) :
      Stops settings method instruction index (.construction method index source)
  /-- The policy for its note is to give the method up. -/
  | aborted {dispatch : Dispatch} {diagnostic : Diagnostic}
      (dispatched : Dispatch.ofInstruction settings instruction index = .ok dispatch)
      (noted : dispatch.diagnostic? = some diagnostic)
      (isAbort : settings.policy diagnostic.cause = .abort) :
      Stops settings method instruction index (.aborted method diagnostic)

/-- What stops the preparation of a body at a position. -/
def MethodBody.StopsAt (body : MethodBody) (settings : Settings) (position : Nat)
    (error : PreparationError) : Prop :=
  Exists fun instruction => body.instructions[position]? = some instruction ∧
    instruction.Stops settings body.descriptor position error

section Stops

variable {settings : Settings} {method : String} {instruction : Instruction} {index : Nat}
variable {dispatch : Dispatch}

theorem Instruction.Stops.unique {first second : PreparationError}
    (stopsFirst : instruction.Stops settings method index first)
    (stopsSecond : instruction.Stops settings method index second) : first = second := by
  cases stopsFirst with
  | construction fails =>
      cases stopsSecond with
      | construction failsAgain =>
          rw [fails] at failsAgain
          cases failsAgain
          rfl
      | aborted dispatched =>
          rw [fails] at dispatched
          cases dispatched
  | aborted dispatched noted =>
      cases stopsSecond with
      | construction fails =>
          rw [dispatched] at fails
          cases fails
      | aborted dispatchedAgain notedAgain =>
          rw [dispatched] at dispatchedAgain
          cases dispatchedAgain
          rw [noted] at notedAgain
          cases notedAgain
          rfl

variable {start : Nat} {rest : List Instruction}

end Stops

namespace MethodBody

variable {body : MethodBody} {settings : Settings}

theorem StopsAt.unique {position : Nat} {first second : PreparationError}
    (stopsFirst : body.StopsAt settings position first)
    (stopsSecond : body.StopsAt settings position second) : first = second := by
  rcases stopsFirst with ⟨instruction, isInstruction, stopsFirst⟩
  rcases stopsSecond with ⟨other, isOther, stopsSecond⟩
  rw [isInstruction] at isOther
  cases isOther
  exact stopsFirst.unique stopsSecond

end MethodBody

/-! ## Notes -/

namespace Prepared

variable {settings : Settings} {start : Nat} {instructions : List Instruction}
variable {dispatches : List Dispatch}

end Prepared

/-! ## Notes along the way -/

/-- What a pass over instructions has gathered. -/
structure Gathered where
  dispatches : List Dispatch := []
  diagnostics : List Diagnostic := []
  deriving Repr, DecidableEq

/-- What has been gathered after one more instruction.  A note that a policy
does not tolerate ends the pass before it is kept. -/
def Gathered.add (gathered : Gathered) (settings : Settings) (method : String) (index : Nat)
    (instruction : Instruction) : Except PreparationError Gathered :=
  match Dispatch.ofInstruction settings instruction index with
  | .error source => .error (.construction method index source)
  | .ok dispatch =>
      match dispatch.diagnostic? with
      | none => .ok { gathered with dispatches := gathered.dispatches ++ [dispatch] }
      | some diagnostic =>
          match settings.policy diagnostic.cause with
          | .abort => .error (.aborted method diagnostic)
          | .ignore | .warn =>
              .ok ⟨gathered.dispatches ++ [dispatch], gathered.diagnostics ++ [diagnostic]⟩

namespace Gathered

variable {settings : Settings} {method : String} {instruction : Instruction} {index : Nat}

end Gathered

theorem Dispatch.ofInstruction_congr {settings other : Settings}
    (sameFolding : other.foldConstants = settings.foldConstants) (instruction : Instruction)
    (index : Nat) :
    Dispatch.ofInstruction other instruction index =
      Dispatch.ofInstruction settings instruction index := by
  unfold Dispatch.ofInstruction Opcode.categoryUnder
  rw [sameFolding]

end DalvikFold
