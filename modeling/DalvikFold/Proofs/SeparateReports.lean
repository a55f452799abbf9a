import DalvikFold.CommandLine.Run
import DalvikFold.Proofs.NamedMethods
import DalvikFold.Proofs.ReportLines

namespace DalvikFold

/-!
# Methods are reported on separately

A request is about some bodies of a listing.  It goes through them in order and
collects the output and what went wrong, and what it leaves is the same as if
each body had a report of its own: a text and perhaps a failure.  The texts go
to the output and the failures to the error output, both in the order of the
listing, and the exit status tells whether there is a failure at all.  A body
that fails, at whichever stage, changes nothing for the others.

As a consequence a listing of methods can be reported on method by method: the
requests for the single descriptors print what the request for the listing
prints, one after the other.
-/

/-! ## The report on a body -/

/-- The report on one method: its text, and what went wrong, in words. -/
structure MethodReport where
  text : String := ""
  failure : Option String := none

/-- The report on a method body, which is executed only if that is asked for. -/
def MethodBody.report [NaNResults] (body : MethodBody) (settings : Settings) (execute : Bool) :
    MethodReport :=
  match body.prepare settings with
  | .error error => { failure := some error.message }
  | .ok method =>
      if execute then
        match body.runText settings method with
        | .error failure => { text := method.table, failure := some failure.message }
        | .ok text => { text := method.table ++ text }
      else
        { text := method.table }

/-- What there is to report on a body.  A body that cannot be prepared has no
text.  One that can has its table, and behind it what its run has left, if it
was to be executed and its run succeeds. -/
inductive MethodBody.Reported [NaNResults] (body : MethodBody) (settings : Settings)
    (execute : Bool) : MethodReport -> Prop where
  | unprepared {error : PreparationError} (refused : body.prepare settings = .error error) :
      Reported body settings execute ⟨"", some error.message⟩
  | listed {method : PreparedMethod} {table : List String}
      (prepared : body.prepare settings = .ok method) (hasTable : method.HasTable table)
      (notExecuted : execute = false) :
      Reported body settings execute ⟨textOfLines table, none⟩
  | unallocated {method : PreparedMethod} {table : List String} {error : ExecutionError}
      (prepared : body.prepare settings = .ok method) (hasTable : method.HasTable table)
      (executed : execute = true)
      (refused : settings.allocate body.registerCount = .error error) :
      Reported body settings execute
        ⟨textOfLines table, some (body.descriptor ++ ": " ++ error.message)⟩
  | failed {method : PreparedMethod} {table : List String} {registers : RegisterFile}
      {error : ExecutionError} (prepared : body.prepare settings = .ok method)
      (hasTable : method.HasTable table) (executed : execute = true)
      (allocated : settings.allocate body.registerCount = .ok registers)
      (fails : (method.run registers).result = .error error) :
      Reported body settings execute
        ⟨textOfLines table, some (body.descriptor ++ ": execution failed: " ++ error.message)⟩
  | finished {method : PreparedMethod} {table stop known : List String}
      {registers : RegisterFile} {summary : RunSummary}
      (prepared : body.prepare settings = .ok method) (hasTable : method.HasTable table)
      (executed : execute = true)
      (allocated : settings.allocate body.registerCount = .ok registers)
      (succeeds : (method.run registers).result = .ok summary) (hasStop : summary.HasStop stop)
      (hasKnown : (method.run registers).registers.HasLines known) :
      Reported body settings execute ⟨textOfLines (table ++ (stop ++ known)), none⟩

theorem MethodBody.reported_report [NaNResults] (body : MethodBody) (settings : Settings)
    (execute : Bool) : body.Reported settings execute (body.report settings execute) := by
  unfold report
  cases prepared : body.prepare settings with
  | error error => exact .unprepared prepared
  | ok method =>
      rcases method.exists_table with ⟨table, hasTable, tableText⟩
      cases execute with
      | false =>
          change Reported body settings false ⟨method.table, none⟩
          rw [tableText]
          exact .listed prepared hasTable rfl
      | true =>
          simp only [runText, if_true]
          cases allocated : settings.allocate body.registerCount with
          | error error =>
              rw [tableText]
              exact .unallocated prepared hasTable rfl allocated
          | ok registers =>
              cases ended : (method.run registers).result with
              | error error =>
                  simp only [ended]
                  rw [tableText]
                  exact .failed prepared hasTable rfl allocated ended
              | ok summary =>
                  rcases summary.exists_stop with ⟨stop, hasStop, stopText⟩
                  rcases (method.run registers).registers.exists_lines with
                    ⟨known, hasKnown, knownText⟩
                  simp only [ended]
                  rw [tableText, stopText, knownText, ← textOfLines_append,
                    ← textOfLines_append]
                  exact .finished prepared hasTable rfl allocated ended hasStop hasKnown

namespace CommandLine

/-! ## From one body to the next -/

section Collecting

variable [NaNResults] (settings : Settings) (execute : Bool)

/-- One more body adds the text of its report to the output, and its failure to
the failures. -/
theorem Collected.add_eq (collected : Collected) (body : MethodBody) :
    collected.add settings execute body =
      ⟨collected.output ++ (body.report settings execute).text,
        collected.failed ++ (body.report settings execute).failure.toList⟩ := by
  unfold add MethodBody.report
  cases body.prepare settings with
  | error error => exact congrArg (Collected.mk · _) String.append_empty.symm
  | ok method =>
      cases execute with
      | false => exact congrArg (Collected.mk _) (List.append_nil collected.failed).symm
      | true =>
          simp only [if_true]
          cases body.runText settings method with
          | error failure => rfl
          | ok text =>
              simp only [String.append_assoc, Option.toList_none, List.append_nil]

theorem Collected.addAll_eq (collected : Collected) (bodies : List MethodBody) :
    addAll settings execute collected bodies =
      ⟨collected.output ++
          String.join (bodies.map (fun body => (body.report settings execute).text)),
        collected.failed ++ bodies.filterMap (fun body => (body.report settings execute).failure)⟩
    := by
  induction bodies generalizing collected with
  | nil =>
      rw [addAll, List.map_nil, String.join_nil, String.append_empty, List.filterMap_nil,
        List.append_nil]
  | cons body bodies inductionHypothesis =>
      rw [addAll, collected.add_eq, inductionHypothesis, List.map_cons, String.join_cons,
        String.append_assoc, List.append_assoc]
      refine congrArg (fun failures => Collected.mk _ (collected.failed ++ failures)) ?_
      rw [List.filterMap_cons]
      cases (body.report settings execute).failure <;> rfl

end Collecting

/-- The failures of a request are reported as one text, which has a line for each
of them. -/
theorem errorLine_intercalate {messages : List String} (nonempty : messages ≠ []) :
    errorLine ("\nError: ".intercalate messages) =
      String.join (messages.map (fun message => "Error: " ++ message ++ "\n")) := by
  induction messages with
  | nil => exact absurd rfl nonempty
  | cons message messages inductionHypothesis =>
      rw [List.map_cons, String.join_cons]
      cases messages with
      | nil => exact String.append_empty.symm
      | cons second others =>
          rw [← inductionHypothesis (List.cons_ne_nil second others),
            String.intercalate_cons_cons]
          have cut : "\nError: " = "\n" ++ "Error: " := rfl
          rw [errorLine, errorLine, cut]
          simp only [String.append_assoc]

private theorem status_eq_zero_iff (failures : List String) :
    (if failures = [] then 0 else 1 : UInt32) = 0 <-> failures = [] := by
  by_cases noFailures : failures = []
  · rw [if_pos noFailures]
    exact iff_of_true rfl noFailures
  · rw [if_neg noFailures]
    exact iff_of_false (by decide) noFailures

/-- Whichever way the output takes, it is what has been collected, and the
failures have a line each. -/
theorem Collected.outcome_ending (collected : Collected) :
    collected.ending.outcome =
      { status := if collected.failed = [] then 0 else 1
        output := collected.output
        errors := String.join
          (collected.failed.map (fun message => "Error: " ++ message ++ "\n")) } := by
  unfold ending
  by_cases noFailures : collected.failed = []
  · rw [noFailures]
    exact congrArg (Outcome.mk 0 · "") String.empty_append
  · rw [if_neg (mt List.isEmpty_iff.mp noFailures), if_neg noFailures,
      ← errorLine_intercalate noFailures]
    rfl

/-! ## The bodies of a request -/

/-- The bodies that a request is about.  Without a descriptor these are all of
them, and a body without a name gets one.  A descriptor is a name for a body
without one, if there is no other body, and otherwise it selects. -/
inductive Selects : Option String -> List MethodBody -> List MethodBody -> Prop where
  | all (bodies : List MethodBody) :
      Selects none bodies (bodies.map (nameBody plainListingName))
  | named (descriptor : String) (instructions : List Instruction) :
      Selects (some descriptor) [⟨"", instructions⟩] [⟨descriptor, instructions⟩]
  | chosen (descriptor : String) {bodies : List MethodBody}
      (notPlain : forall instructions, bodies ≠ [⟨"", instructions⟩]) :
      Selects (some descriptor) bodies
        (bodies.filter (fun body => body.descriptor == descriptor))

theorem Selects.selectBodies_eq {method : Option String} {bodies selected : List MethodBody}
    (selects : Selects method bodies selected) (nonempty : selected ≠ []) :
    selectBodies method bodies = .ok selected := by
  cases selects with
  | all bodies => rfl
  | named descriptor instructions => rfl
  | chosen descriptor notPlain =>
      rw [selectBodies]
      · cases found : bodies.filter (fun body => body.descriptor == descriptor) with
        | nil => exact absurd found nonempty
        | cons body others => rfl
      · exact notPlain

/-- A descriptor that one body alone has selects that body. -/
theorem filter_descriptor {bodies : List MethodBody}
    (distinct : (bodies.map MethodBody.descriptor).Nodup) {body : MethodBody}
    (isBody : body ∈ bodies) :
    bodies.filter (fun other => other.descriptor == body.descriptor) = [body] := by
  induction bodies with
  | nil => cases isBody
  | cons first others inductionHypothesis =>
      rw [List.map_cons, List.nodup_cons] at distinct
      rcases List.mem_cons.mp isBody with isFirst | isOther
      · subst isFirst
        have noOther : others.filter (fun other => other.descriptor == body.descriptor) = [] := by
          rw [List.filter_eq_nil_iff]
          intro other isOther sameDescriptor
          exact distinct.1 (List.mem_map.mpr ⟨other, isOther, beq_iff_eq.mp sameDescriptor⟩)
        simp only [List.filter_cons, beq_self_eq_true, if_true, noOther]
      · have different : first.descriptor ≠ body.descriptor := fun sameDescriptor =>
          distinct.1 (List.mem_map.mpr ⟨body, isOther, sameDescriptor.symm⟩)
        simp only [List.filter_cons, beq_eq_false_iff_ne.mpr different, Bool.false_eq_true,
          if_false, inductionHypothesis distinct.2 isOther]

private theorem nameBody_of_named {body : MethodBody} (isNamed : body.descriptor ≠ "")
    (name : String) :
    nameBody name body = body :=
  if_neg isNamed

/-! ## Runs -/

/-- Arguments that ask for a report can be followed by others.  Each argument
either leaves the request to the later ones or settles it, and a report is never
settled before the end. -/
theorem requestAfter_append {listing : Option String} {options final : Options}
    {arguments : List String} {name : String}
    (asked : requestAfter listing options arguments = .ok (.report name final))
    (more : List String) :
    requestAfter listing options (arguments ++ more) = requestAfter (some name) final more := by
  fun_induction requestAfter listing options arguments with
  | case1 options listing =>
      -- The arguments have ended, and what they ask for is the report.
      cases asked
      rfl
  | case2 | case3 | case4 | case5 | case7 | case12 | case13 => cases asked
  | case6 listing options argument path rest isConfig inductionHypothesis =>
      simp only [List.cons_append, requestAfter, isConfig]
      exact inductionHypothesis asked
  | case8 listing options argument descriptor rest isMethod inductionHypothesis =>
      simp only [List.cons_append, requestAfter, isMethod]
      exact inductionHypothesis asked
  | case9 listing options argument rest isFlag inductionHypothesis
  | case10 listing options argument rest isFlag inductionHypothesis
  | case11 listing options argument rest isFlag inductionHypothesis =>
      simp only [List.cons_append, requestAfter, isFlag]
      exact inductionHypothesis asked
  | case14 options argument rest isListing inductionHypothesis =>
      simp only [List.cons_append, requestAfter, isListing]
      exact inductionHypothesis asked

/-- The request for a single descriptor. -/
theorem request_method {arguments : List String} {listing : String} {options : Options}
    (asked : request arguments = .ok (.report listing options)) (descriptor : String) :
    request (arguments ++ ["--method", descriptor]) =
      .ok (.report listing { options with method := some descriptor }) :=
  requestAfter_append asked ["--method", descriptor]

private theorem join_map_empty {Item : Type} (items : List Item) :
    String.join (items.map (fun _ => "")) = "" := by
  induction items with
  | nil => rfl
  | cons item items inductionHypothesis =>
      rw [List.map_cons, String.join_cons, inductionHypothesis]
      rfl

section Runs

variable [NaNResults] {reader : Settings.Reader} {surroundings : Surroundings}
variable {arguments : List String} {listing text : String} {options : Options}
variable {bodies selected : List MethodBody}
variable (asked : request arguments = .ok (.report listing options))
variable (read : readListing surroundings listing = .ok text)
variable (areMethods : Listing.methods text = .ok bodies)
variable (areSelected : selectBodies options.method bodies = .ok selected)
include asked read areMethods areSelected

private theorem runWith_of_settings {settings : Settings}
    (areSettings : options.settings reader surroundings = .ok settings) :
    runWith reader surroundings arguments =
      (Collected.addAll settings options.execute { } selected).ending.outcome := by
  have subject : options.subject reader surroundings listing = .ok (settings, selected) := by
    rw [Options.subject, read, areSettings]
    change ((Listing.methods text).mapError Failure.listing >>= _) = _
    rw [areMethods]
    change (selectBodies options.method bodies >>= _) = _
    rw [areSelected]
    rfl
  unfold runWith
  simp only [asked, Options.ending, subject]

/-- What a request leaves is put together from the reports on its bodies. -/
theorem runWith_eq {settings : Settings}
    (areSettings : options.settings reader surroundings = .ok settings) :
    runWith reader surroundings arguments =
      { status := if selected.filterMap (fun body =>
            (body.report settings options.execute).failure) = [] then 0 else 1
        output := String.join (selected.map (fun body =>
          (body.report settings options.execute).text))
        errors := String.join ((selected.filterMap (fun body =>
          (body.report settings options.execute).failure)).map
            (fun message => "Error: " ++ message ++ "\n")) } := by
  rw [runWith_of_settings asked read areMethods areSelected areSettings, Collected.addAll_eq,
    Collected.outcome_ending]
  simp only [String.empty_append, List.nil_append]

omit areMethods areSelected in
/-- Without settings there is no output. -/
theorem output_of_settings_error {error : SettingsError}
    (refused : options.settings reader surroundings = .error error) :
    (runWith reader surroundings arguments).output = "" := by
  have subject : options.subject reader surroundings listing = .error (.settings error) := by
    rw [Options.subject, read, refused]
    rfl
  unfold runWith
  simp only [asked, Options.ending, subject]
  rfl

variable {settings : Settings}
variable (areNamed : forall body, body ∈ bodies -> body.descriptor ≠ "")
variable (areSettings : options.settings reader surroundings = .ok settings)
omit areSelected
include areNamed areSettings

/-- Without a descriptor, the output on named bodies consists of their texts. -/
theorem output_of_named (noMethod : options.method = none) :
    (runWith reader surroundings arguments).output =
      String.join (bodies.map (fun body => (body.report settings options.execute).text)) := by
  have unchanged : bodies.map (nameBody plainListingName) = bodies := by
    refine (List.map_congr_left fun body isBody => ?_).trans (List.map_id bodies)
    exact nameBody_of_named (areNamed body isBody) plainListingName
  have areSelected : selectBodies options.method bodies = .ok bodies := by
    rw [noMethod]
    exact congrArg Except.ok unchanged
  rw [runWith_eq asked read areMethods areSelected areSettings]

/-- With its descriptor, the output on a named body is its text. -/
theorem output_of_descriptor (distinct : (bodies.map MethodBody.descriptor).Nodup)
    {body : MethodBody} (isBody : body ∈ bodies) :
    (runWith reader surroundings (arguments ++ ["--method", body.descriptor])).output =
      (body.report settings options.execute).text := by
  have notPlain : forall instructions, bodies ≠ [⟨"", instructions⟩] := by
    intro instructions isPlain
    exact areNamed ⟨"", instructions⟩ (isPlain ▸ List.mem_cons_self) rfl
  have selects := Selects.chosen body.descriptor notPlain
  rw [filter_descriptor distinct isBody] at selects
  have areSelected := selects.selectBodies_eq (List.cons_ne_nil body [])
  rw [runWith_eq (request_method asked body.descriptor) read areMethods areSelected areSettings,
    List.map_singleton, String.join_cons, String.join_nil, String.append_empty]

end Runs

/-- One failing method does not affect the others.  For every listing whose
methods can be read and every selection of at least one of them, the output
consists of the texts of the reports and the error output of a line for each
failure, in the order of the listing, and the exit status is zero if and only if
there is no failure.  Each report is about one body under the settings of the
request.  If the listing has methods with different descriptors, then the
requests for the single descriptors together have the output of the request for
all of them. -/
theorem run_separate [NaNResults] :
    (forall (reader : Settings.Reader) (surroundings : Surroundings) (arguments : List String)
        (listing text : String) (options : Options) (settings : Settings)
        (bodies selected : List MethodBody),
      request arguments = .ok (.report listing options) ->
      readListing surroundings listing = .ok text ->
      options.settings reader surroundings = .ok settings ->
      Listing.methods text = .ok bodies ->
      Selects options.method bodies selected -> selected ≠ [] ->
      let report := fun body : MethodBody => body.report settings options.execute
      (runWith reader surroundings arguments).output =
          String.join (selected.map (fun body => (report body).text)) ∧
        (runWith reader surroundings arguments).errors =
          String.join ((selected.filterMap (fun body => (report body).failure)).map
            (fun message => "Error: " ++ message ++ "\n")) ∧
        ((runWith reader surroundings arguments).status = 0 <->
          forall body, body ∈ selected -> (report body).failure = none)) ∧
    (forall (body : MethodBody) (settings : Settings) (execute : Bool),
      body.Reported settings execute (body.report settings execute)) ∧
    (forall (reader : Settings.Reader) (surroundings : Surroundings) (arguments : List String)
        (listing text : String) (options : Options) (bodies : List MethodBody),
      request arguments = .ok (.report listing options) -> options.method = none ->
      readListing surroundings listing = .ok text ->
      Listing.methods text = .ok bodies ->
      Listing.StartsMethod (Text.lines text.toList) ->
      (bodies.map MethodBody.descriptor).Nodup ->
      (runWith reader surroundings arguments).output =
        String.join (bodies.map (fun body =>
          (runWith reader surroundings (arguments ++ ["--method", body.descriptor])).output))) := by
  refine ⟨?_, MethodBody.reported_report, ?_⟩
  · intro reader surroundings arguments listing text options settings bodies selected asked read
      areSettings areMethods selects nonempty report
    have areSelected := selects.selectBodies_eq nonempty
    rw [runWith_eq asked read areMethods areSelected areSettings]
    refine ⟨rfl, rfl, ?_⟩
    rw [status_eq_zero_iff, List.filterMap_eq_nil_iff]
  · intro reader surroundings arguments listing text options bodies asked noMethod read areMethods
      started distinct
    have areNamed := Listing.descriptor_ne_empty areMethods started
    cases areSettings : options.settings reader surroundings with
    | error error =>
        -- Neither request has any output then.
        have single : forall body : MethodBody,
            (runWith reader surroundings
              (arguments ++ ["--method", body.descriptor])).output = "" := fun body =>
          output_of_settings_error (request_method asked body.descriptor) read areSettings
        simp only [single, join_map_empty]
        exact output_of_settings_error asked read areSettings
    | ok settings =>
        rw [output_of_named asked read areMethods areNamed areSettings noMethod]
        refine congrArg String.join (List.map_congr_left fun body isBody => ?_)
        exact (output_of_descriptor asked read areMethods areNamed areSettings distinct isBody).symm

/-- Four methods.  The first one loads a constant, the second one divides it by
zero, the third one adds a literal that does not fit its field, and the fourth
one begins with a branch. -/
def fourMethods : String :=
  ".class LA;\n.method a()I\nconst/4 v0, 2\n.end method\n.method b()I\nconst/4 v0, 2
div-int/lit8 v1, v0, 0\n.end method\n.method c()I\nadd-int/lit8 v0, v0, 200\n.end method
.method d()I\nif-eqz v0, :l\n.end method\n"

def fourBodies : List MethodBody := [
  ⟨"LA;->a()I", [⟨.constant (.narrow .bits4), [.register 0, .literal 2]⟩]⟩,
  ⟨"LA;->b()I", [⟨.constant (.narrow .bits4), [.register 0, .literal 2]⟩,
    ⟨.arithmetic (.literal8 .div), [.register 1, .register 0, .literal 0]⟩]⟩,
  ⟨"LA;->c()I",
    [⟨.arithmetic (.literal8 .add), [.register 0, .register 0, .literal 200]⟩]⟩,
  ⟨"LA;->d()I", [⟨.branchZero .eq, [.register 0, .label "l"]⟩]⟩]

theorem Contents.text_toUTF8 (text : String) : Contents.text (.ok text.toUTF8) = .ok text := by
  have decoded : String.fromUTF8? text.toUTF8 = some text := dif_pos text.isValidUTF8
  rw [Contents.text]
  simp only [decoded]

/-- The methods stand on the standard input, and there is nothing else. -/
def fourMethodsInput : Surroundings where
  standardInput := .ok fourMethods.toUTF8
  file := fun _ => .error .missing
  environment := fun _ => none

/-- The options of a request to execute the methods. -/
def executing : Options := { execute := true }

/-- The settings that these options make. -/
def folding : Settings := { foldConstants := true }

theorem methods_fourMethods : Listing.methods fourMethods = .ok fourBodies := by
  rw [Listing.methods, fourMethods, String.toList_ofList]
  rfl

theorem run_separate_fourMethods :
    request ["--execute", "-"] = .ok (.report "-" executing) ∧ executing.method = none ∧
      readListing fourMethodsInput "-" = .ok fourMethods ∧
      executing.settings Settings.documentReader fourMethodsInput = .ok folding ∧
      Listing.methods fourMethods = .ok fourBodies ∧
      Selects executing.method fourBodies fourBodies ∧ fourBodies ≠ [] ∧
      Listing.StartsMethod (Text.lines fourMethods.toList) ∧
      (fourBodies.map MethodBody.descriptor).Nodup ∧
      (run fourMethodsInput ["--execute", "-"]).output =
        "method LA;->a()I
    0  const/4                    constant             handler
  v0 = 2
method LA;->b()I
    0  const/4                    constant             handler
    1  div-int/lit8               binary-arithmetic    handler
method LA;->d()I
    0  if-eqz                     conditional-branch   not wired
  note: index 0: if-eqz is conditional-branch but has no handler factory
  stopped at index 0\n" ∧
      (run fourMethodsInput ["--execute", "-"]).errors =
        "Error: LA;->b()I: execution failed: division by zero\n" ++
          "Error: LA;->c()I: cannot build handler at index 0: literal 200 " ++
          "does not fit the 8-bit field of add-int/lit8\n" ∧
      (run fourMethodsInput ["--execute", "-"]).status ≠ 0 ∧
      (run fourMethodsInput ["--execute", "-"]).output =
        String.join (fourBodies.map (fun body =>
          (run fourMethodsInput ["--execute", "-", "--method", body.descriptor]).output)) := by
  have asked : request ["--execute", "-"] = .ok (.report "-" executing) := rfl
  have read : readListing fourMethodsInput "-" = .ok fourMethods := by
    rw [readListing, if_pos rfl, fourMethodsInput, Contents.text_toUTF8]
    rfl
  have areSettings :
      executing.settings Settings.documentReader fourMethodsInput = .ok folding := rfl
  have selects : Selects executing.method fourBodies fourBodies := .all fourBodies
  have nonempty : fourBodies ≠ [] := List.cons_ne_nil _ _
  have started : Listing.StartsMethod (Text.lines fourMethods.toList) := by
    refine ⟨".method a()I".toList, ?_, "a()I", rfl⟩
    rw [fourMethods, String.toList_ofList]
    decide
  have distinct : (fourBodies.map MethodBody.descriptor).Nodup := by decide
  have failures : fourBodies.filterMap
      (fun body => (body.report folding executing.execute).failure) =
      ["LA;->b()I: execution failed: division by zero",
        "LA;->c()I: cannot build handler at index 0: literal 200 " ++
          "does not fit the 8-bit field of add-int/lit8"] := by decide
  have separate := run_separate.1 Settings.documentReader fourMethodsInput ["--execute", "-"] "-"
    fourMethods executing folding fourBodies fourBodies asked read areSettings
    methods_fourMethods selects nonempty
  have together := run_separate.2.2 Settings.documentReader fourMethodsInput ["--execute", "-"]
    "-" fourMethods executing fourBodies asked rfl read methods_fourMethods started distinct
  refine ⟨asked, rfl, read, areSettings, methods_fourMethods, selects, nonempty, started, distinct,
    separate.1.trans ?_, separate.2.1.trans ?_, ?_, together⟩
  · decide +kernel
  · rw [failures]
    decide +kernel
  · intro isZero
    have noFailures := List.filterMap_eq_nil_iff.mpr (separate.2.2.mp isZero)
    cases failures.symm.trans noFailures

end CommandLine
end DalvikFold
