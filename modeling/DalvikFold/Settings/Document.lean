import DalvikFold.Settings.Basic
import DalvikFold.Toml.Document

namespace DalvikFold

/-!
Settings by a document.

Each setting has a key in the outermost table.  A key that is absent leaves the
setting at its default, and keys of no setting are ignored.  This is the reader
that the program runs with.  It gives no reason for a refusal.
-/

/-- The policy that a value states: by its name, or as the only key of a table
in which it has no content. -/
def Policy.ofValue? : Toml.Value -> Option Policy
  | .string name => Policy.ofName? name
  | .table _ [(name, content)] => if content.isEmpty then Policy.ofName? name else none
  | _ => none

namespace Settings

def registersOfValue? : Toml.Value -> Option Nat
  | .integer number => if 0 ≤ number then some number.toNat else none
  | _ => none

def flagOfValue? : Toml.Value -> Option Bool
  | .boolean truth => some truth
  | _ => none

/-- The setting that the value of a key states, or its default if the key is
absent. -/
def entry? {value : Type} (entries : Toml.Entries) (key : String)
    (read : Toml.Value -> Option value) (default : value) : Option value :=
  match entries.lookup key with
  | none => some default
  | some found => read found

/-- The settings that the entries of a document's outermost table state. -/
def ofEntries? (entries : Toml.Entries) : Option Settings := do
  let defaults : Settings := { }
  return {
    fallbackPolicy :=
      <- entry? entries "unimplemented_policy" Policy.ofValue? defaults.fallbackPolicy
    notWiredPolicy :=
      <- entry? entries "not_wired_policy" Policy.ofValue? defaults.notWiredPolicy
    maxRegisters := <- entry? entries "max_registers" registersOfValue? defaults.maxRegisters
    foldConstants := <- entry? entries "fold_constants" flagOfValue? defaults.foldConstants
    trace := <- entry? entries "trace" flagOfValue? defaults.trace }

def documentReader : Settings.Reader := fun source =>
  match (Toml.Document.read? source).bind ofEntries? with
  | some settings => .ok settings
  | none => .error ""

def ofDocument (source : String) : Except SettingsError Settings :=
  readBy documentReader source

end Settings
end DalvikFold
