import DalvikFold.Method.Prepare

namespace DalvikFold

/-!
Straight-line runs.

A run executes the handlers of a method in program order and ignores control
flow.  It ends in front of the first instruction without a handler, or at the
first handler that fails, and it always says in which state it left the
registers.
-/

/-- What a run that did not fail has done. -/
structure RunSummary where
  /-- The number of handlers that ran. -/
  executed : Nat := 0
  /-- The number of handlers among them that had no effect to offer. -/
  unsupported : Nat := 0
  /-- The position of the instruction without a handler that ended the run. -/
  stoppedAt : Option Nat := none
  deriving Repr, DecidableEq

/-- The summary with one more handler in front. -/
def RunSummary.after (summary : RunSummary) (step : Step) : RunSummary :=
  { summary with
    executed := summary.executed + 1
    unsupported := summary.unsupported + (if step = .unsupported then 1 else 0) }

/-- How a run ended, and the registers it left. -/
structure RunOutcome where
  result : Except ExecutionError RunSummary
  registers : RegisterFile

/-- The run of dispatched instructions on a register file. -/
def runDispatches [NaNResults] : List Dispatch -> RegisterFile -> RunOutcome
  | [], registers => ⟨.ok { }, registers⟩
  | .notWired _ index :: _, registers => ⟨.ok { stoppedAt := some index }, registers⟩
  | .handled handler :: rest, registers =>
      match handler.execute registers with
      | .error error => ⟨.error error, registers⟩
      | .ok (step, registers) =>
          let outcome := runDispatches rest registers
          ⟨outcome.result.map (fun summary => summary.after step), outcome.registers⟩

theorem runDispatches_of_error [NaNResults] {handler : Handler} {registers : RegisterFile}
    {error : ExecutionError} (fails : handler.execute registers = .error error)
    (rest : List Dispatch) :
    runDispatches (.handled handler :: rest) registers = ⟨.error error, registers⟩ := by
  rw [runDispatches, fails]

theorem runDispatches_of_ok [NaNResults] {handler : Handler} {registers after : RegisterFile}
    {step : Step}
    (succeeds : handler.execute registers = .ok (step, after)) (rest : List Dispatch) :
    runDispatches (.handled handler :: rest) registers =
      ⟨(runDispatches rest after).result.map (fun summary => summary.after step),
        (runDispatches rest after).registers⟩ := by
  rw [runDispatches, succeeds]

def PreparedMethod.run [NaNResults] (method : PreparedMethod)
    (registers : RegisterFile) : RunOutcome :=
  runDispatches method.dispatches registers

/-- A register file of the given size, if the settings allow it. -/
def Settings.allocate (settings : Settings) (count : Nat) : Except ExecutionError RegisterFile :=
  if settings.maxRegisters < count then
    .error (.tooManyRegisters count settings.maxRegisters)
  else
    .ok (.fresh count)

end DalvikFold
