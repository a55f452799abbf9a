import Mathlib.Logic.Function.Basic
import DalvikFold.CommandLine.Run
import DalvikFold.Proofs.SeparateReports
import DalvikFold.Proofs.SettingWords

namespace DalvikFold

/-!
# Layers of settings

The settings of a request come in layers.  At the bottom are the defaults or the
settings of a file, on top of them is what environment variables state, and on
top of that what the options ask for.  Every field is decided on its own: by the
options if they ask for it, or else by its variable if that states a value, or
else by the layer at the bottom.

A variable whose text states no value counts as if it were not set.  This needs
no word about which other variables are set, because each of the four settings
that have variables is computed from the text of its own variable alone.
-/

/-! ## One layer on another -/

/-- The value of a setting with a variable on top of it: the value that the text
of the variable states, or the value from below if there is no text or it states
none. -/
inductive Overrides {value : Type} (States : String -> value -> Prop) (given : Option String)
    (present : value) : value -> Prop where
  | stated {text : String} {stated : value} (isGiven : given = some text)
      (states : States text stated) : Overrides States given present stated
  | kept (unstated : forall text stated, given = some text -> ¬ States text stated) :
      Overrides States given present present

section Overridden

variable {value : Type} {read : String -> Option value}

/-- A variable that is not set, or cannot be read, leaves the value from below. -/
theorem Settings.overridden_of_unread {given : Option String}
    (unread : forall text stated, given = some text -> read text ≠ some stated)
    (present : value) : overridden read given present = present := by
  have noValue : given.bind read = none := by
    rw [Option.bind_eq_none_iff]
    intro text isGiven
    rw [Option.eq_none_iff_forall_ne_some]
    exact fun stated => unread text stated isGiven
  rw [overridden, noValue, Option.getD_none]

theorem Settings.overridden_eq_iff {States : String -> value -> Prop}
    (reads : forall {text stated}, read text = some stated <-> States text stated)
    {given : Option String} {present result : value} :
    overridden read given present = result <-> Overrides States given present result := by
  constructor
  · rintro rfl
    unfold overridden
    cases isRead : given.bind read with
    | none =>
        refine .kept fun text stated isGiven states => ?_
        rw [isGiven, Option.bind_some, reads.mpr states] at isRead
        cases isRead
    | some stated =>
        rcases Option.bind_eq_some_iff.mp isRead with ⟨text, isGiven, isStated⟩
        exact .stated isGiven (reads.mp isStated)
  · intro overrides
    cases overrides with
    | stated isGiven states =>
        rw [overridden, isGiven, Option.bind_some, reads.mpr states, Option.getD_some]
    | kept unstated =>
        apply overridden_of_unread
        exact fun text stated isGiven isRead => unstated text stated isGiven (reads.mp isRead)

private theorem Settings.overridden_overridden (given : Option String) (present : value) :
    overridden read given (overridden read given present) = overridden read given present := by
  unfold overridden
  cases given.bind read <;> rfl

private theorem Settings.overridden_map {other : Type} (wrap : value -> other)
    (given : Option String) (present : value) :
    overridden (fun text => (read text).map wrap) given (wrap present) =
      wrap (overridden read given present) := by
  unfold overridden
  cases given with
  | none => rfl
  | some text =>
      change ((read text).map wrap).getD (wrap present) = wrap ((read text).getD present)
      cases read text <;> rfl

end Overridden

/-! ## The settings that have variables -/

/-- A setting with an environment variable. -/
inductive Overridable where
  | trace
  | foldConstants
  | fallbackPolicy
  | notWiredPolicy
  deriving DecidableEq

namespace Overridable

def variableName : Overridable -> String
  | .trace => "DEXSIMPLIFY_TRACE"
  | .foldConstants => "DEXSIMPLIFY_FOLD_CONSTANTS"
  | .fallbackPolicy => "DEXSIMPLIFY_UNIMPLEMENTED_POLICY"
  | .notWiredPolicy => "DEXSIMPLIFY_NOT_WIRED_POLICY"

def value (settings : Settings) : Overridable -> Bool ⊕ Policy
  | .trace => .inl settings.trace
  | .foldConstants => .inl settings.foldConstants
  | .fallbackPolicy => .inr settings.fallbackPolicy
  | .notWiredPolicy => .inr settings.notWiredPolicy

/-- The text states a value for the setting. -/
def Reads (text : String) : Overridable -> Prop
  | .trace => Exists fun flag => StatesFlag text flag
  | .foldConstants => Exists fun flag => StatesFlag text flag
  | .fallbackPolicy => Exists fun policy => StatesPolicy text policy
  | .notWiredPolicy => Exists fun policy => StatesPolicy text policy

/-- The value that a text states for the setting. -/
def read? : Overridable -> String -> Option (Bool ⊕ Policy)
  | .trace, text => (flag? text).map .inl
  | .foldConstants, text => (flag? text).map .inl
  | .fallbackPolicy, text => (Policy.read? text).map .inr
  | .notWiredPolicy, text => (Policy.read? text).map .inr

theorem variableName_injective {first second : Overridable}
    (sameName : first.variableName = second.variableName) : first = second := by
  cases first <;> cases second <;> simp [variableName] at sameName ⊢

private theorem reads_of_read? {setting : Overridable} {text : String} {stated : Bool ⊕ Policy}
    (isRead : setting.read? text = some stated) : setting.Reads text := by
  cases setting with
  | trace | foldConstants =>
      rcases Option.map_eq_some_iff.mp isRead with ⟨flag, isFlag, _⟩
      exact ⟨flag, flag?_eq_some_iff.mp isFlag⟩
  | fallbackPolicy | notWiredPolicy =>
      rcases Option.map_eq_some_iff.mp isRead with ⟨policy, isPolicy, _⟩
      exact ⟨policy, Policy.read?_eq_some_iff.mp isPolicy⟩

/-- A setting is overridden by its own variable. -/
theorem value_withOverrides (setting : Overridable) (settings : Settings)
    (environment : String -> Option String) :
    setting.value (settings.withOverrides environment) =
      Settings.overridden setting.read? (environment setting.variableName)
        (setting.value settings) := by
  cases setting <;> exact (Settings.overridden_map _ _ _).symm

theorem value_of_unread {setting : Overridable} {environment : String -> Option String}
    (unread : forall text, environment setting.variableName = some text -> ¬ setting.Reads text)
    (settings : Settings) :
    setting.value (settings.withOverrides environment) = setting.value settings := by
  rw [value_withOverrides]
  apply Settings.overridden_of_unread
  exact fun text stated isGiven isRead => unread text isGiven (reads_of_read? isRead)

end Overridable

namespace Settings

theorem eq_of_value {first second : Settings}
    (same : forall setting : Overridable, setting.value first = setting.value second)
    (sameLimit : first.maxRegisters = second.maxRegisters) : first = second := by
  have sameTrace := Sum.inl.inj (same .trace)
  have sameFolding := Sum.inl.inj (same .foldConstants)
  have sameFallback := Sum.inr.inj (same .fallbackPolicy)
  have sameNotWired := Sum.inr.inj (same .notWiredPolicy)
  cases first
  cases second
  rw [Settings.mk.injEq]
  exact ⟨sameFallback, sameNotWired, sameLimit, sameFolding, sameTrace⟩

/-- A variable that cannot be read counts as if it were not set. -/
theorem withOverrides_of_unread {setting : Overridable} {environment : String -> Option String}
    (unread : forall text, environment setting.variableName = some text -> ¬ setting.Reads text)
    (settings : Settings) :
    settings.withOverrides environment =
      settings.withOverrides (Function.update environment setting.variableName none) := by
  have absent : forall text,
      Function.update environment setting.variableName none setting.variableName = some text ->
        ¬ setting.Reads text := by
    intro text isGiven
    rw [Function.update_self] at isGiven
    cases isGiven
  refine eq_of_value (fun other => ?_) rfl
  by_cases same : other = setting
  · rw [same, Overridable.value_of_unread unread, Overridable.value_of_unread absent]
  · have otherName : other.variableName ≠ setting.variableName :=
      fun sameName => same (Overridable.variableName_injective sameName)
    rw [other.value_withOverrides, other.value_withOverrides, Function.update_of_ne otherName]

theorem withOverrides_withOverrides (settings : Settings)
    (environment : String -> Option String) :
    (settings.withOverrides environment).withOverrides environment =
      settings.withOverrides environment := by
  refine eq_of_value (fun setting => ?_) rfl
  rw [setting.value_withOverrides, setting.value_withOverrides, overridden_overridden]

end Settings

namespace CommandLine

/-! ## Options -/

theorem Options.applyTo_eq (options : Options) (settings : Settings) :
    options.applyTo settings =
      { settings with
        foldConstants := options.foldConstants || options.execute || settings.foldConstants
        trace := options.trace || settings.trace } := by
  unfold applyTo
  cases options.trace <;> cases options.foldConstants || options.execute <;> rfl

/-- A flag that an option sets, with what holds of it if the option does not ask
for it. -/
inductive Switched (asked : Prop) (Otherwise : Bool -> Prop) : Bool -> Prop where
  | on (isAsked : asked) : Switched asked Otherwise true
  | left {flag : Bool} (notAsked : ¬ asked) (holds : Otherwise flag) :
      Switched asked Otherwise flag

theorem or_overridden_eq_iff {asked : Bool} {given : Option String} {present flag : Bool} :
    (asked || Settings.overridden flag? given present) = flag <->
      Switched (asked = true) (Overrides StatesFlag given present) flag := by
  have overriding : Settings.overridden flag? given present = flag <->
      Overrides StatesFlag given present flag :=
    Settings.overridden_eq_iff flag?_eq_some_iff
  cases asked with
  | true =>
      constructor
      · rintro rfl
        exact .on rfl
      · intro switched
        cases switched with
        | on => rfl
        | left notAsked => exact absurd rfl notAsked
  | false =>
      rw [Bool.false_or, overriding]
      constructor
      · exact .left Bool.false_ne_true
      · intro switched
        cases switched with
        | on isAsked => cases isAsked
        | left _ holds => exact holds

/-- The settings with the layers of the environment and of the options on top of
those to start with. -/
structure Options.Layered (options : Options) (environment : String -> Option String)
    (start settings : Settings) : Prop where
  foldConstants :
    Switched (options.foldConstants = true ∨ options.execute = true)
      (Overrides StatesFlag (environment "DEXSIMPLIFY_FOLD_CONSTANTS") start.foldConstants)
      settings.foldConstants
  trace :
    Switched (options.trace = true)
      (Overrides StatesFlag (environment "DEXSIMPLIFY_TRACE") start.trace) settings.trace
  fallbackPolicy :
    Overrides StatesPolicy (environment "DEXSIMPLIFY_UNIMPLEMENTED_POLICY") start.fallbackPolicy
      settings.fallbackPolicy
  notWiredPolicy :
    Overrides StatesPolicy (environment "DEXSIMPLIFY_NOT_WIRED_POLICY") start.notWiredPolicy
      settings.notWiredPolicy
  maxRegisters : settings.maxRegisters = start.maxRegisters

theorem Options.layered_eq_iff {options : Options} {environment : String -> Option String}
    {start settings : Settings} :
    options.layered environment start = settings <->
      options.Layered environment start settings := by
  have asksFolding : (options.foldConstants || options.execute) = true <->
      options.foldConstants = true ∨ options.execute = true := Bool.or_eq_true_iff
  have policy {given : Option String} {present result : Policy} :
      Settings.overridden Policy.read? given present = result <->
        Overrides StatesPolicy given present result :=
    Settings.overridden_eq_iff Policy.read?_eq_some_iff
  rw [layered, applyTo_eq]
  constructor
  · rintro rfl
    exact
      { foldConstants := by
          rw [← asksFolding]
          exact or_overridden_eq_iff.mp rfl
        trace := or_overridden_eq_iff.mp rfl
        fallbackPolicy := policy.mp rfl
        notWiredPolicy := policy.mp rfl
        maxRegisters := rfl }
  · intro layered
    have folding := layered.foldConstants
    rw [← asksFolding, ← or_overridden_eq_iff] at folding
    refine Settings.eq_of_value (fun setting => ?_) layered.maxRegisters.symm
    cases setting with
    | trace => exact congrArg Sum.inl (or_overridden_eq_iff.mpr layered.trace)
    | foldConstants => exact congrArg Sum.inl folding
    | fallbackPolicy => exact congrArg Sum.inr (policy.mpr layered.fallbackPolicy)
    | notWiredPolicy => exact congrArg Sum.inr (policy.mpr layered.notWiredPolicy)

theorem Options.maxRegisters_layered (options : Options)
    (environment : String -> Option String) (start : Settings) :
    (options.layered environment start).maxRegisters = start.maxRegisters :=
  (layered_eq_iff.mp rfl).maxRegisters

/-- Each setting depends on the text of its own variable only. -/
theorem Options.value_layered_congr (options : Options) {setting : Overridable}
    {first second : String -> Option String}
    (sameText : first setting.variableName = second setting.variableName) (start : Settings) :
    setting.value (options.layered first start) = setting.value (options.layered second start) := by
  have below : setting.value (start.withOverrides first) =
      setting.value (start.withOverrides second) := by
    rw [setting.value_withOverrides, setting.value_withOverrides, sameText]
  rw [layered, layered, applyTo_eq, applyTo_eq]
  cases setting with
  | trace => exact congrArg (fun flag => Sum.inl (options.trace || flag)) (Sum.inl.inj below)
  | foldConstants =>
      exact congrArg (fun flag => Sum.inl (options.foldConstants || options.execute || flag))
        (Sum.inl.inj below)
  | fallbackPolicy | notWiredPolicy => exact below

/-- The settings that a request starts with: the defaults, or those that the
reader finds in the text of the file that it names. -/
inductive Options.StartsFrom (options : Options) (reader : Settings.Reader)
    (surroundings : Surroundings) : Settings -> Prop where
  | defaults (noFile : options.config = none) : StartsFrom options reader surroundings { }
  | file {path text : String} {settings : Settings} (isFile : options.config = some path)
      (isText : (surroundings.file path).text = .ok text) (isRead : reader text = .ok settings) :
      StartsFrom options reader surroundings settings

private theorem Options.StartsFrom.settings_eq {options : Options} {reader : Settings.Reader}
    {surroundings : Surroundings} {start : Settings}
    (startsFrom : options.StartsFrom reader surroundings start) :
    options.settings reader surroundings =
      .ok (options.layered surroundings.environment start) := by
  cases startsFrom with
  | defaults noFile =>
      rw [Options.settings, noFile]
      rfl
  | file isFile isText isRead =>
      rw [Options.settings, isFile]
      dsimp only
      rw [readSettings, isText]
      dsimp only
      rw [Settings.readBy, isRead]
      rfl

/-- The layers of a request override each other field by field.  Whatever the
settings to start with, the settings of the request are those with the layers on
top of them, and no others are.  A variable that cannot be read counts as if it
were not set, and leaves its setting as it is.  A variable of any name concerns
no setting but the one that has this name for its variable.  The same
environment has nothing to add a second time. -/
theorem settings_layered :
    (forall (options : Options) (reader : Settings.Reader) (surroundings : Surroundings)
        (start : Settings),
      options.StartsFrom reader surroundings start ->
        options.settings reader surroundings =
          .ok (options.layered surroundings.environment start)) ∧
    (forall (options : Options) (environment : String -> Option String)
        (start settings : Settings),
      options.layered environment start = settings <->
        options.Layered environment start settings) ∧
    (forall (options : Options) (environment : String -> Option String) (start : Settings)
        (setting : Overridable),
      (forall text, environment setting.variableName = some text -> ¬ setting.Reads text) ->
        options.layered environment start =
            options.layered (Function.update environment setting.variableName none) start ∧
          setting.value (start.withOverrides environment) = setting.value start) ∧
    (forall (options : Options) (first second : String -> Option String) (start : Settings)
        (name : String),
      (forall other, other ≠ name -> first other = second other) ->
        (forall setting : Overridable, setting.variableName ≠ name ->
          setting.value (options.layered first start) =
            setting.value (options.layered second start)) ∧
        (options.layered first start).maxRegisters =
          (options.layered second start).maxRegisters) ∧
    (forall (start : Settings) (environment : String -> Option String),
      (start.withOverrides environment).withOverrides environment =
        start.withOverrides environment) := by
  refine ⟨fun options reader surroundings start => Options.StartsFrom.settings_eq,
    fun options environment start settings => Options.layered_eq_iff, ?_, ?_,
    Settings.withOverrides_withOverrides⟩
  · intro options environment start setting unread
    refine ⟨?_, Overridable.value_of_unread unread start⟩
    exact congrArg options.applyTo (Settings.withOverrides_of_unread unread start)
  · intro options first second start name sameElsewhere
    constructor
    · intro setting otherName
      exact options.value_layered_congr (sameElsewhere setting.variableName otherName) start
    · rw [options.maxRegisters_layered, options.maxRegisters_layered]

/-- The contents of a file with settings. -/
def lowLimit : String :=
  "trace = true\nmax_registers = 16\n"

def lowLimitSettings : Settings :=
  { trace := true, maxRegisters := 16 }

/-- Variables with words that can be read, and one with a word in capitals for a
flag. -/
def threeVariables : String -> Option String
  | "DEXSIMPLIFY_TRACE" => some " off\n"
  | "DEXSIMPLIFY_FOLD_CONSTANTS" => some "ON"
  | "DEXSIMPLIFY_UNIMPLEMENTED_POLICY" => some "\tIgnore "
  | _ => none

/-- The file and the variables. -/
def lowLimitSurroundings : Surroundings where
  standardInput := .error .missing
  file := fun _ => .ok lowLimit.toUTF8
  environment := threeVariables

/-- The options of a request to execute methods under the settings of a file. -/
def executingUnderFile : Options := { config := some "settings", execute := true }

/-- The settings of that request. -/
def layeredSettings : Settings :=
  { fallbackPolicy := .ignore, maxRegisters := 16, foldConstants := true }

private theorem layered_threeVariables :
    executingUnderFile.Layered threeVariables lowLimitSettings layeredSettings where
  foldConstants := .on (.inr rfl)
  trace := by
    have isGiven : threeVariables "DEXSIMPLIFY_TRACE" = some " off\n" := rfl
    have isPadded : Text.Padded "off".toList " off\n".toList :=
      @Text.Padded.intro _ [' '] ['\n'] (.singleton rfl) (.singleton rfl)
    exact .left Bool.false_ne_true (.stated isGiven ⟨"off", .off, isPadded⟩)
  fallbackPolicy := by
    have isGiven : threeVariables "DEXSIMPLIFY_UNIMPLEMENTED_POLICY" = some "\tIgnore " := rfl
    have isPadded : Text.Padded "Ignore".toList "\tIgnore ".toList :=
      @Text.Padded.intro _ ['\t'] [' '] (.singleton rfl) (.singleton rfl)
    have lowers : List.Forall₂ LowersTo "Ignore".toList "ignore".toList :=
      lowersTo_all_iff.mpr rfl
    exact .stated isGiven ⟨"ignore", _, .ignore, lowers, isPadded⟩
  notWiredPolicy := .kept fun text stated isGiven => nomatch isGiven
  maxRegisters := rfl

theorem settings_layered_fileAndVariables :
    executingUnderFile.StartsFrom Settings.documentReader lowLimitSurroundings lowLimitSettings ∧
      executingUnderFile.settings Settings.documentReader lowLimitSurroundings =
        .ok layeredSettings ∧
      threeVariables "DEXSIMPLIFY_FOLD_CONSTANTS" = some "ON" ∧
      ¬ Overridable.foldConstants.Reads "ON" ∧
      (lowLimitSettings.withOverrides threeVariables).foldConstants = false ∧
      (forall other, other ≠ "DEXSIMPLIFY_FOLD_CONSTANTS" ->
        threeVariables other =
          Function.update threeVariables "DEXSIMPLIFY_FOLD_CONSTANTS" (some "1") other) ∧
      (executingUnderFile.layered
        (Function.update threeVariables "DEXSIMPLIFY_FOLD_CONSTANTS" (some "1"))
        lowLimitSettings).trace = false := by
  have isRead : Settings.documentReader lowLimit = .ok lowLimitSettings := by
    have reads : (Settings.documentReader lowLimit).toOption = some lowLimitSettings := by
      decide +kernel
    exact Except.eq_ok_of_toOption reads
  have starts : executingUnderFile.StartsFrom Settings.documentReader lowLimitSurroundings
      lowLimitSettings :=
    .file rfl (Contents.text_toUTF8 lowLimit) isRead
  have isLayered : executingUnderFile.layered threeVariables lowLimitSettings = layeredSettings :=
    (settings_layered.2.1 _ _ _ _).mpr layered_threeVariables
  have unread : ¬ Overridable.foldConstants.Reads "ON" := by
    rintro ⟨flag, isFlag⟩
    cases flag?_eq_some_iff.mpr isFlag
  have kept := settings_layered.2.2.1 executingUnderFile threeVariables lowLimitSettings
    .foldConstants (fun text isGiven => Option.some.inj isGiven ▸ unread)
  have sameElsewhere : forall other, other ≠ "DEXSIMPLIFY_FOLD_CONSTANTS" ->
      threeVariables other =
        Function.update threeVariables "DEXSIMPLIFY_FOLD_CONSTANTS" (some "1") other :=
    fun other otherName => (Function.update_of_ne otherName _ _).symm
  have sameTrace := (settings_layered.2.2.2.1 executingUnderFile threeVariables _ lowLimitSettings
    "DEXSIMPLIFY_FOLD_CONSTANTS" sameElsewhere).1 .trace (by decide)
  rw [isLayered] at sameTrace
  refine ⟨starts, ?_, rfl, unread, Sum.inl.inj kept.2, sameElsewhere,
    (Sum.inl.inj sameTrace).symm⟩
  rw [settings_layered.1 _ _ _ _ starts]
  exact congrArg Except.ok isLayered

end CommandLine
end DalvikFold
