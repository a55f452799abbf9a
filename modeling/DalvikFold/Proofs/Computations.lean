namespace DalvikFold

/-!
# Computations that may fail

A sequence of computations that succeeds can be taken apart into steps that
succeed.  Two computations can be compared in their ends, and this comes in two
strengths.  Computations that *end alike* succeed together or fail together.  A
computation that is *covered* by another one may fail where the other succeeds,
but never the other way round.  Both notions pass through sequencing, so that
they need only be checked for single steps.
-/

/-! ## Success -/

/-- A sequence of two computations succeeds by way of a result of the first. -/
theorem Except.exists_of_bind {Failure First Second : Type} {first : Except Failure First}
    {next : First -> Except Failure Second} {result : Second}
    (succeeds : first >>= next = .ok result) :
    Exists fun value => first = .ok value ∧ next value = .ok result := by
  cases first with
  | error error => cases succeeds
  | ok value => exact ⟨value, rfl, succeeds⟩

theorem Except.exists_of_map {Failure First Second : Type} {first : Except Failure First}
    {next : First -> Second} {result : Second} (succeeds : first.map next = .ok result) :
    Exists fun value => first = .ok value ∧ next value = result := by
  cases first with
  | error error => cases succeeds
  | ok value => exact ⟨value, rfl, Except.ok.inj succeeds⟩

theorem Except.eq_error_of_map {Failure First Second : Type} {first : Except Failure First}
    {next : First -> Second} {failure : Failure} (fails : first.map next = .error failure) :
    first = .error failure := by
  cases first with
  | error error => exact congrArg Except.error (Except.error.inj fails)
  | ok value => cases fails

theorem Except.eq_ok_of_toOption {Failure Result : Type} {computation : Except Failure Result}
    {result : Result} (isResult : computation.toOption = some result) :
    computation = .ok result := by
  cases computation with
  | error error => cases isResult
  | ok other => exact congrArg Except.ok (Option.some.inj isResult)

/-! ## Two computations -/

/-- Both computations succeed with related results, or both fail with related
errors. -/
inductive EndAlike {Failure Left Right : Type} (errors : Failure -> Failure -> Prop)
    (results : Left -> Right -> Prop) : Except Failure Left -> Except Failure Right -> Prop where
  | ok {left : Left} {right : Right} (related : results left right) :
      EndAlike errors results (.ok left) (.ok right)
  | error {left right : Failure} (related : errors left right) :
      EndAlike errors results (.error left) (.error right)

/-- Where the first computation succeeds, the second one succeeds as well, with
a related result.  Nothing is said where the first one fails. -/
inductive Covered {Failure Left Right : Type} (results : Left -> Right -> Prop) :
    Except Failure Left -> Except Failure Right -> Prop where
  | ok {left : Left} {right : Right} (related : results left right) :
      Covered results (.ok left) (.ok right)
  | failed (error : Failure) (other : Except Failure Right) :
      Covered results (.error error) other

section Sequencing

variable {Failure Left Right NextLeft NextRight : Type}
variable {errors : Failure -> Failure -> Prop}
variable {results : Left -> Right -> Prop} {nextResults : NextLeft -> NextRight -> Prop}
variable {left : Except Failure Left} {right : Except Failure Right}

theorem EndAlike.bind (alike : EndAlike errors results left right)
    {nextLeft : Left -> Except Failure NextLeft} {nextRight : Right -> Except Failure NextRight}
    (next : forall first second, results first second ->
      EndAlike errors nextResults (nextLeft first) (nextRight second)) :
    EndAlike errors nextResults (left >>= nextLeft) (right >>= nextRight) := by
  cases alike with
  | ok related => exact next _ _ related
  | error related => exact .error related

theorem EndAlike.map (alike : EndAlike errors results left right)
    {nextLeft : Left -> NextLeft} {nextRight : Right -> NextRight}
    (next : forall first second, results first second ->
      nextResults (nextLeft first) (nextRight second)) :
    EndAlike errors nextResults (left.map nextLeft) (right.map nextRight) := by
  cases alike with
  | ok related => exact .ok (next _ _ related)
  | error related => exact .error related

/-- After equal results the two computations go on from one value. -/
theorem EndAlike.bind_eq {left right : Except Failure Left} (alike : EndAlike errors Eq left right)
    {nextLeft : Left -> Except Failure NextLeft} {nextRight : Left -> Except Failure NextRight}
    (next : forall result, EndAlike errors nextResults (nextLeft result) (nextRight result)) :
    EndAlike errors nextResults (left >>= nextLeft) (right >>= nextRight) := by
  refine alike.bind fun first second same => ?_
  subst same
  exact next first

/-- One computation ends like itself, as far as its results and its errors are
related to themselves. -/
theorem EndAlike.refl {results : Left -> Left -> Prop}
    (errorsRefl : forall error, errors error error)
    (resultsRefl : forall result, results result result)
    (computation : Except Failure Left) :
    EndAlike errors results computation computation := by
  cases computation with
  | error error => exact .error (errorsRefl error)
  | ok result => exact .ok (resultsRefl result)

theorem EndAlike.mono {moreErrors : Failure -> Failure -> Prop}
    (alike : EndAlike errors results left right)
    (weaker : forall first second, errors first second -> moreErrors first second) :
    EndAlike moreErrors results left right := by
  cases alike with
  | ok related => exact .ok related
  | error related => exact .error (weaker _ _ related)

theorem EndAlike.covered (alike : EndAlike errors results left right) :
    Covered results left right := by
  cases alike with
  | ok related => exact .ok related
  | error related => exact .failed _ _

theorem Covered.bind (covered : Covered results left right)
    {nextLeft : Left -> Except Failure NextLeft} {nextRight : Right -> Except Failure NextRight}
    (next : forall first second, results first second ->
      Covered nextResults (nextLeft first) (nextRight second)) :
    Covered nextResults (left >>= nextLeft) (right >>= nextRight) := by
  cases covered with
  | ok related => exact next _ _ related
  | failed error other => exact .failed error _

theorem Covered.mono {moreResults : Left -> Right -> Prop} (covered : Covered results left right)
    (weaker : forall first second, results first second -> moreResults first second) :
    Covered moreResults left right := by
  cases covered with
  | ok related => exact .ok (weaker _ _ related)
  | failed error other => exact .failed error _

theorem Covered.refl {results : Left -> Left -> Prop}
    (resultsRefl : forall result, results result result) (computation : Except Failure Left) :
    Covered results computation computation := by
  cases computation with
  | error error => exact .failed error _
  | ok result => exact .ok (resultsRefl result)

/-- A computation is covered by a result that is related to all its own. -/
theorem Covered.of_ok {other : Right} (related : forall result, results result other)
    (computation : Except Failure Left) : Covered results computation (.ok other) := by
  cases computation with
  | error error => exact .failed error _
  | ok result => exact .ok (related result)

/-- The result that the second computation has because the first one has one. -/
theorem Covered.exists_ok (covered : Covered results left right) {result : Left}
    (succeeds : left = .ok result) :
    Exists fun other => right = .ok other ∧ results result other := by
  cases covered with
  | ok related =>
      cases succeeds
      exact ⟨_, rfl, related⟩
  | failed error other => cases succeeds

end Sequencing

end DalvikFold
