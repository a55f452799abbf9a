import DalvikFold.CommandLine.Request
import DalvikFold.CommandLine.Surroundings
import DalvikFold.Listing.Methods
import DalvikFold.Report.Method
import DalvikFold.Settings.Document
import DalvikFold.Settings.Overrides

namespace DalvikFold
namespace CommandLine

/-!
A run of the program.

The listing is read before the settings, and the settings before the listing is
made sense of.  The settings come in layers: the defaults or a file, then the
environment, then the options of the command line.  After that the selected
methods are reported on one after the other, and a failure of one of them is
kept until the end.

A document of settings is read by a reader that is given to the run.
-/

/-- What a run leaves: its exit status, its output and its error output. -/
structure Outcome where
  status : UInt32
  output : String
  errors : String
  deriving Repr, DecidableEq

/-- What ends a request before any method is reported on. -/
inductive Failure where
  | unreadableInput (reason : ReadFailure)
  | missingListing (name : String)
  | unreadableListing (name : String) (reason : ReadFailure)
  | settings (error : SettingsError)
  | listing (error : Listing.Error)
  | missingMethod (descriptor : String)
  deriving Repr, DecidableEq

def Failure.message : Failure -> String
  | .unreadableInput reason => s!"Failed to read from stdin: {reason.message}"
  | .missingListing name => s!"Listing not found: {name}"
  | .unreadableListing name reason => s!"Failed to read file '{name}': {reason.message}"
  | .settings error => error.message
  | .listing error => s!"Parse error: {error.message}"
  | .missingMethod descriptor => s!"Method not found: {descriptor}"

/-! ## The listing -/

/-- The text of a listing.  A dash names the standard input. -/
def readListing (surroundings : Surroundings) (name : String) : Except Failure String :=
  if name = "-" then
    surroundings.standardInput.text.mapError .unreadableInput
  else
    (surroundings.file name).text.mapError (fun reason =>
      if reason.isAbsence then .missingListing name else .unreadableListing name reason)

/-! ## The settings -/

def readSettings (reader : Settings.Reader) (surroundings : Surroundings) (path : String) :
    Except SettingsError Settings :=
  match (surroundings.file path).text with
  | .error reason => .error (.unreadable path reason.message)
  | .ok text => Settings.readBy reader text

/-- The settings with those that options make.  Executing a method implies that
constant loads have their effect. -/
def Options.applyTo (options : Options) (settings : Settings) : Settings :=
  let folding :=
    if options.foldConstants || options.execute then settings.withConstantFolding else settings
  if options.trace then folding.withTrace else folding

/-- The settings with the environment and the options on top of them. -/
def Options.layered (options : Options) (environment : String -> Option String)
    (settings : Settings) : Settings :=
  options.applyTo (settings.withOverrides environment)

def Options.settings (options : Options) (reader : Settings.Reader)
    (surroundings : Surroundings) : Except SettingsError Settings :=
  let start := match options.config with
    | some path => readSettings reader surroundings path
    | none => .ok { }
  start.map (options.layered surroundings.environment)

/-! ## The methods -/

/-- The name of a listing without methods, if no other is given. -/
def plainListingName : String := "<listing>"

/-- The body with a name, if it has none yet. -/
def nameBody (name : String) (body : MethodBody) : MethodBody :=
  if body.descriptor = "" then { body with descriptor := name } else body

/-- The methods to report on.  A given descriptor names the one body of a
listing without methods, and selects from any other listing. -/
def selectBodies (method : Option String) (bodies : List MethodBody) :
    Except Failure (List MethodBody) :=
  match method, bodies with
  | none, bodies => .ok (bodies.map (nameBody plainListingName))
  | some descriptor, [⟨"", instructions⟩] => .ok [⟨descriptor, instructions⟩]
  | some descriptor, bodies =>
      match bodies.filter (fun body => body.descriptor == descriptor) with
      | [] => .error (.missingMethod descriptor)
      | selected => .ok selected

/-- The settings of a request, and the methods of the listing that it is
about. -/
def Options.subject (options : Options) (reader : Settings.Reader) (surroundings : Surroundings)
    (listing : String) : Except Failure (Settings × List MethodBody) := do
  let text <- readListing surroundings listing
  let settings <- (options.settings reader surroundings).mapError .settings
  let bodies <- (Listing.methods text).mapError .listing
  let selected <- selectBodies options.method bodies
  return (settings, selected)

/-- What has been collected over methods: the output so far, and what went
wrong, in words. -/
structure Collected where
  output : String := ""
  failed : List String := []

/-- What has been collected after one more method.  One that cannot be prepared
adds nothing to the output, and one that cannot be executed adds its table. -/
def Collected.add [NaNResults] (settings : Settings) (execute : Bool) (collected : Collected)
    (body : MethodBody) : Collected :=
  match body.prepare settings with
  | .error error => { collected with failed := collected.failed ++ [error.message] }
  | .ok method =>
      let listed := { collected with output := collected.output ++ method.table }
      if execute then
        match body.runText settings method with
        | .error failure => { listed with failed := listed.failed ++ [failure.message] }
        | .ok text => { listed with output := listed.output ++ text }
      else
        listed

/-- What has been collected after more methods. -/
def Collected.addAll [NaNResults] (settings : Settings)
    (execute : Bool) : Collected -> List MethodBody -> Collected
  | collected, [] => collected
  | collected, body :: rest => addAll settings execute (collected.add settings execute body) rest

/-! ## The outcome -/

/-- How a request ends: what it has printed already, and then its output or what
went wrong, in words. -/
structure Ending where
  printed : String := ""
  result : Except String String

/-- The end of what has been collected.  The output is printed at once if
something went wrong, because then the result has no place for it. -/
def Collected.ending (collected : Collected) : Ending :=
  if collected.failed.isEmpty then
    { result := .ok collected.output }
  else
    { printed := collected.output
      result := .error ("\nError: ".intercalate collected.failed) }

/-- How the request for a report ends. -/
def Options.ending [NaNResults] (options : Options) (reader : Settings.Reader)
    (surroundings : Surroundings) (listing : String) : Ending :=
  match options.subject reader surroundings listing with
  | .error failure => { result := .error failure.message }
  | .ok (settings, selected) => (Collected.addAll settings options.execute { } selected).ending

def errorLine (message : String) : String :=
  "Error: " ++ message ++ "\n"

def Ending.outcome (ending : Ending) : Outcome :=
  match ending.result with
  | .error message => { status := 1, output := ending.printed, errors := errorLine message }
  | .ok output => { status := 0, output := ending.printed ++ output, errors := "" }

/-- What the program does with its arguments, if documents are read by a reader. -/
def runWith [NaNResults] (reader : Settings.Reader) (surroundings : Surroundings)
    (arguments : List String) : Outcome :=
  match request arguments with
  | .error error =>
      { status := 1, output := "", errors := errorLine error.message ++ "\n" ++ usage }
  | .ok .help => { status := 0, output := "", errors := usage }
  | .ok .version => { status := 0, output := versionLine, errors := "" }
  | .ok (.report listing options) => (options.ending reader surroundings listing).outcome

/-- What the program does with its arguments. -/
def run (surroundings : Surroundings) (arguments : List String) : Outcome :=
  runWith Settings.documentReader surroundings arguments

end CommandLine
end DalvikFold
