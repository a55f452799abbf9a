import DalvikFold.Method.Run

namespace DalvikFold

/-!
The report on one method.

A method that prepares is reported as a table of its instructions, the notes
about them and, if the method is to be executed, what the run left.
-/

/-- What goes wrong with one method. -/
inductive MethodFailure where
  | preparation (error : PreparationError)
  /-- The registers of the method cannot be had. -/
  | allocation (method : String) (error : ExecutionError)
  /-- The run of the method failed. -/
  | execution (method : String) (error : ExecutionError)
  deriving Repr, DecidableEq

def MethodFailure.message : MethodFailure -> String
  | .preparation error => error.message
  | .allocation method error => s!"{method}: {error.message}"
  | .execution method error => s!"{method}: execution failed: {error.message}"

/-! ## The table of a method -/

/-- A text filled up with blanks on its left. -/
def alignedRight (width : Nat) (text : String) : String :=
  String.ofList (text.toList.leftpad width ' ')

/-- A text filled up with blanks on its right. -/
def alignedLeft (width : Nat) (text : String) : String :=
  String.ofList (text.toList.rightpad width ' ')

/-- What became of an instruction, in a word or two. -/
def Dispatch.outcome (dispatch : Dispatch) : String :=
  if dispatch.isNotWired then
    "not wired"
  else if dispatch.isFallback then
    "fallback"
  else
    "handler"

def Dispatch.row (dispatch : Dispatch) (position : Nat) : String :=
  alignedRight 5 (Text.decimal position) ++ "  " ++
    alignedLeft 26 dispatch.opcode.mnemonic ++ " " ++
    alignedLeft 20 dispatch.category.name ++ " " ++ dispatch.outcome ++ "\n"

/-- The rows of instructions that start at a position. -/
def rowsFrom : Nat -> List Dispatch -> String
  | _, [] => ""
  | position, dispatch :: rest => dispatch.row position ++ rowsFrom (position + 1) rest

def Diagnostic.line (diagnostic : Diagnostic) : String :=
  "  note: " ++ diagnostic.message ++ "\n"

/-- The title, the rows and the notes of a method. -/
def PreparedMethod.table (method : PreparedMethod) : String :=
  "method " ++ method.descriptor ++ "\n" ++ rowsFrom 0 method.dispatches ++
    String.join (method.diagnostics.map Diagnostic.line)

/-! ## What a run left -/

/-- The line that says where a run stopped. -/
def RunSummary.stopLine (summary : RunSummary) : String :=
  match summary.stoppedAt with
  | some index => "  stopped at index " ++ Text.decimal index ++ "\n"
  | none => ""

def registerLine (number : Nat) (value : Value) : String :=
  "  v" ++ Text.decimal number ++ " = " ++ value.render ++ "\n"

/-- The lines of the known registers, in ascending order. -/
def RegisterFile.lines (registers : RegisterFile) : String :=
  String.join (registers.known.map (fun (number, value) => registerLine number value))

/-- What the run of a method left, for a fresh register file of the size that
its body needs. -/
def MethodBody.runText [NaNResults] (body : MethodBody) (settings : Settings)
    (method : PreparedMethod) : Except MethodFailure String :=
  match settings.allocate body.registerCount with
  | .error error => .error (.allocation body.descriptor error)
  | .ok registers =>
      let outcome := method.run registers
      match outcome.result with
      | .error error => .error (.execution body.descriptor error)
      | .ok summary => .ok (summary.stopLine ++ outcome.registers.lines)

end DalvikFold
