namespace DalvikFold

/-!
The settings of a run, and what can go wrong with them.

Two policies say what happens to instructions that have no effect of their own,
one setting turns the folding of constants on, and one limits the registers of
a method.
-/

/-- What is done about an instruction that cannot be handled in full. -/
inductive Policy where
  /-- Note it and go on. -/
  | ignore
  /-- Note it, log a warning, and go on. -/
  | warn
  /-- Give the method up. -/
  | abort
  deriving Repr, DecidableEq

def Policy.name : Policy -> String
  | .ignore => "ignore"
  | .warn => "warn"
  | .abort => "abort"

def Policy.ofName? (name : String) : Option Policy :=
  [Policy.ignore, .warn, .abort].find? (fun policy => policy.name == name)

/-- The settings of a run. -/
structure Settings where
  /-- The policy for instructions that fall back to having no effect. -/
  fallbackPolicy : Policy := .warn
  /-- The policy for instructions of a category that nothing handles yet. -/
  notWiredPolicy : Policy := .warn
  /-- The largest number of registers that a method may ask for. -/
  maxRegisters : Nat := 65536
  /-- Whether constant loads have their effect, or fall back. -/
  foldConstants : Bool := false
  /-- Whether every dispatch is logged. -/
  trace : Bool := false
  deriving Repr, DecidableEq

/-- Why settings are refused. -/
inductive SettingsError where
  /-- The file of this name cannot be read, for this reason. -/
  | unreadable (path reason : String)
  /-- The document is malformed, or a setting has a value of the wrong kind.  The
  reason is what the reader of the document says about it. -/
  | malformed {reason : String}
  /-- No policy has this name. -/
  | unknownPolicy (name : String)
  deriving Repr, DecidableEq

def SettingsError.message : SettingsError -> String
  | .unreadable path reason => s!"failed to read config '{path}': {reason}"
  | @malformed reason => s!"invalid config: {reason}"
  | .unknownPolicy name => s!"invalid value for policy: '{name}'"

/-- A reader of documents: the settings that a text states, or else what is
wrong with the text, in words. -/
abbrev Settings.Reader := String -> Except String Settings

/-- The settings that a text states, as a reader understands it. -/
def Settings.readBy (reader : Settings.Reader) (text : String) : Except SettingsError Settings :=
  (reader text).mapError (@SettingsError.malformed)

end DalvikFold
