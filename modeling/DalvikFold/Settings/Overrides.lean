import DalvikFold.Settings.Basic
import DalvikFold.Text.Blank

namespace DalvikFold

/-!
Settings by environment variables.

Each variable concerns one setting and takes precedence over what was set
before.  A variable whose value cannot be read changes nothing.  Policies are
read without regard to case, the words of a flag are not.
-/

/-- The policy that a text names, blanks at its ends and ASCII case aside. -/
def Policy.read (text : String) : Except SettingsError Policy :=
  let name := (String.ofList (Text.trim text.toList)).map Char.toLower
  match Policy.ofName? name with
  | some policy => .ok policy
  | none => .error (.unknownPolicy name)

def Policy.read? (text : String) : Option Policy :=
  (Policy.read text).toOption

def flagOnWords : List String :=
  ["1", "true", "yes", "on"]

def flagOffWords : List String :=
  ["0", "false", "no", "off"]

/-- The flag that a text states, blanks at its ends aside. -/
def flag? (text : String) : Option Bool :=
  let word := String.ofList (Text.trim text.toList)
  if word ∈ flagOnWords then
    some true
  else if word ∈ flagOffWords then
    some false
  else
    none

namespace Settings

/-- The value that a variable gives to a setting, or else the value that it
has. -/
def overridden {value : Type} (read : String -> Option value) (given : Option String)
    (present : value) : value :=
  (given.bind read).getD present

def withOverrides (settings : Settings) (environment : String -> Option String) : Settings :=
  { settings with
    trace := overridden flag? (environment "DEXSIMPLIFY_TRACE") settings.trace
    foldConstants :=
      overridden flag? (environment "DEXSIMPLIFY_FOLD_CONSTANTS") settings.foldConstants
    fallbackPolicy :=
      overridden Policy.read? (environment "DEXSIMPLIFY_UNIMPLEMENTED_POLICY")
        settings.fallbackPolicy
    notWiredPolicy :=
      overridden Policy.read? (environment "DEXSIMPLIFY_NOT_WIRED_POLICY")
        settings.notWiredPolicy }

/-- The settings with every dispatch logged. -/
def withTrace (settings : Settings) : Settings :=
  { settings with trace := true }

/-- The settings with constant loads having their effect. -/
def withConstantFolding (settings : Settings) : Settings :=
  { settings with foldConstants := true }

end Settings
end DalvikFold
