import DalvikFold.CommandLine.Run

/-!
The program on the command line.

Only what the arguments ask for is read, and everything that happens to it is
decided by the run.
-/

namespace DalvikFold
namespace CommandLine

/-- The failure that an error of the system stands for.  Some calls give the
number of an error with a minus sign. -/
def ReadFailure.ofSystem (error : IO.Error) : ReadFailure :=
  match error with
  | .noFileOrDirectory _ _ _ => .missing
  | .inappropriateType _ code _ =>
      match (min code (0 - code)).toNat with
      | 20 => .notADirectory
      | 21 => .isADirectory
      | _ => .other (toString error)
  | _ => .other (toString error)

/-- The contents that an action of the system delivers. -/
def observe (action : IO ByteArray) : IO Contents := do
  try
    return .ok (<- action)
  catch error =>
    return .error (.ofSystem error)

def observeFile (path : String) : IO Contents :=
  observe (IO.FS.readBinFile path)

def observeInput : IO Contents := do
  let stream <- IO.getStdin
  observe (IO.FS.Stream.readBinToEnd stream)

/-- The environment variables that settings depend on. -/
def settingVariables : List String :=
  ["DEXSIMPLIFY_TRACE", "DEXSIMPLIFY_FOLD_CONSTANTS", "DEXSIMPLIFY_UNIMPLEMENTED_POLICY",
    "DEXSIMPLIFY_NOT_WIRED_POLICY"]

/-- The surroundings as far as a request depends on them. -/
def observeFor (request : Except UsageError Request) : IO Surroundings := do
  let bindings <- settingVariables.mapM (fun name => do return (name, <- IO.getEnv name))
  let environment := fun name => (bindings.lookup name).join
  match request with
  | .ok (.report listing options) =>
      let input <- if listing = "-" then observeInput else pure (.error .missing)
      let names := [listing] ++ options.config.toList
      let files <- names.mapM (fun name => do return (name, <- observeFile name))
      return ⟨input, fun name => (files.lookup name).getD (.error .missing), environment⟩
  | _ => return ⟨.error .missing, fun _ => .error .missing, environment⟩

end CommandLine
end DalvikFold

def main (arguments : List String) : IO UInt32 := do
  let request := DalvikFold.CommandLine.request arguments
  let surroundings <- DalvikFold.CommandLine.observeFor request
  let outcome := DalvikFold.CommandLine.run surroundings arguments
  IO.print outcome.output
  IO.eprint outcome.errors
  return outcome.status
