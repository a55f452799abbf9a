import DalvikFold.Listing.Basic
import DalvikFold.Listing.Methods
import DalvikFold.Proofs.Computations

namespace DalvikFold
namespace Listing

/-!
# One listing, read in two ways

A listing can be read for its instructions alone, or as the methods of a class.
The two readings go over the same lines, and they can differ in one respect
only: the second one may find fault with the nesting of methods.  Where it does
not, the methods hold the instructions of the first reading, each once and in
the same order.

While methods are read, the instructions inside of methods and those outside of
them are collected apart, so their common order is lost once there are both.
Such a listing is refused in the end.  The invariant therefore looks back from
the end of the reading: if the end is not mixed then nothing before it was, and
as long as nothing is mixed each line adds its instruction behind the others.
-/

/-- A fault in the nesting of methods. -/
inductive Fault.IsNesting : Fault -> Prop where
  | intro (fault : NestingFault) : IsNesting (.nesting fault)

/-! ## Lines -/

namespace Progress

/-- The ways in which a line is accepted. -/
inductive Accepts (progress : Progress) (number : Nat) : Line -> Progress -> Prop where
  | skip : Accepts progress number .skip progress
  -- The class may change inside of a method.
  | classStart (descriptor : String) :
      Accepts progress number (.classStart descriptor)
        { progress with owner := some descriptor }
  | methodStart (noneOpen : progress.current = none) (signature : String) :
      Accepts progress number (.methodStart signature)
        { progress with current := some ⟨progress.describe signature, []⟩ }
  | methodEnd {method : OpenMethod} (isOpen : progress.current = some method) :
      Accepts progress number .methodEnd
        { progress with current := none, closed := method.close :: progress.closed }
  | enclosed {method : OpenMethod} (isOpen : progress.current = some method)
      (instruction : Instruction) :
      Accepts progress number (.code instruction)
        { progress with
          current := some { method with reversed := instruction :: method.reversed } }
  | loose (noneOpen : progress.current = none) (instruction : Instruction) :
      Accepts progress number (.code instruction)
        { progress with
          loose := instruction :: progress.loose
          looseLine := some (progress.looseLine.getD number) }

variable {progress next : Progress} {number : Nat} {line : Line}

theorem accepts_of_accept (accepted : progress.accept number line = .ok next) :
    progress.Accepts number line next := by
  cases line with
  | skip =>
      cases accepted
      exact .skip
  | classStart descriptor =>
      cases accepted
      exact .classStart descriptor
  | methodStart signature =>
      cases isCurrent : progress.current with
      | none =>
          rw [accept, isCurrent] at accepted
          cases accepted
          exact .methodStart isCurrent signature
      | some method =>
          rw [accept, isCurrent] at accepted
          cases accepted
  | methodEnd =>
      cases isCurrent : progress.current with
      | none =>
          rw [accept, isCurrent] at accepted
          cases accepted
      | some method =>
          rw [accept, isCurrent] at accepted
          cases accepted
          exact .methodEnd isCurrent
  | code instruction =>
      cases isCurrent : progress.current with
      | none =>
          rw [accept, isCurrent] at accepted
          cases accepted
          rw [← isCurrent]
          exact .loose isCurrent instruction
      | some method =>
          rw [accept, isCurrent] at accepted
          cases accepted
          exact .enclosed isCurrent instruction

/-- A line that can be read is refused for its nesting only. -/
theorem isNesting_of_accept {fault : Fault}
    (refused : progress.accept number line = .error fault) : fault.IsNesting := by
  cases line with
  | skip | classStart => cases refused
  | methodStart | methodEnd | code =>
      cases isCurrent : progress.current <;> rw [accept, isCurrent] at refused <;> cases refused
      all_goals exact .intro _

/-- The instructions that have been read, first those of methods and then those
outside of methods. -/
def listed (progress : Progress) : List Instruction :=
  (progress.closed.reverse ++ (progress.current.map OpenMethod.close).toList).flatMap
      MethodBody.instructions ++
    progress.loose.reverse

/-- Methods and instructions outside of methods have not both been read. -/
inductive Unmixed (progress : Progress) : Prop where
  | bare (noneClosed : progress.closed = []) (noneOpen : progress.current = none)
  | enclosed (noneLoose : progress.loose = [])

/-- Instructions outside of methods have a line that can be reported. -/
def Marked (progress : Progress) : Prop :=
  progress.looseLine = none -> progress.loose = []

theorem Accepts.marked (accepts : progress.Accepts number line next) (marked : progress.Marked) :
    next.Marked := by
  cases accepts with
  | loose => exact fun unmarked => nomatch unmarked
  | _ => exact marked

/-- If nothing is mixed after a line then nothing was before it, and the line
has added its instruction, if it has one, behind the others. -/
theorem Accepts.listed (accepts : progress.Accepts number line next) (unmixed : next.Unmixed) :
    progress.Unmixed ∧ next.listed = progress.listed ++ line.instruction?.toList := by
  -- Of the two ways to be unmixed, lines of methods leave one and bare
  -- instructions the other.
  cases accepts with
  | skip => exact ⟨unmixed, (List.append_nil _).symm⟩
  | classStart descriptor =>
      refine ⟨?_, (List.append_nil _).symm⟩
      cases unmixed with
      | bare noneClosed noneOpen => exact .bare noneClosed noneOpen
      | enclosed noneLoose => exact .enclosed noneLoose
  | methodStart noneOpen signature =>
      cases unmixed with
      | bare _ noneOpen => cases noneOpen
      | enclosed noneLoose =>
          refine ⟨.enclosed noneLoose, ?_⟩
          simp [Progress.listed, noneOpen, OpenMethod.close, Line.instruction?]
  | methodEnd isOpen =>
      cases unmixed with
      | bare noneClosed _ => cases noneClosed
      | enclosed noneLoose =>
          refine ⟨.enclosed noneLoose, ?_⟩
          simp [Progress.listed, isOpen, Line.instruction?]
  | enclosed isOpen instruction =>
      cases unmixed with
      | bare _ noneOpen => cases noneOpen
      | enclosed noneLoose =>
          have wasLoose : progress.loose = [] := noneLoose
          refine ⟨.enclosed wasLoose, ?_⟩
          simp [Progress.listed, isOpen, wasLoose, OpenMethod.close, Line.instruction?]
  | loose noneOpen instruction =>
      cases unmixed with
      | bare noneClosed _ =>
          refine ⟨.bare noneClosed noneOpen, ?_⟩
          simp [Progress.listed, Line.instruction?]
      | enclosed noneLoose => cases noneLoose

/-- The ways in which bodies are accepted in the end. -/
inductive Finishes (progress : Progress) : List MethodBody -> Prop where
  | bare (noneOpen : progress.current = none) (noneClosed : progress.closed = []) :
      Finishes progress [⟨"", progress.loose.reverse⟩]
  | methods (noneOpen : progress.current = none) (someClosed : progress.closed ≠ [])
      (noneLoose : progress.looseLine = none) : Finishes progress progress.closed.reverse

theorem finishes_of_finish {lineCount : Nat} {bodies : List MethodBody}
    (finished : progress.finish lineCount = .ok bodies) : progress.Finishes bodies := by
  cases isCurrent : progress.current with
  | some method =>
      rw [finish, isCurrent] at finished
      cases finished
  | none =>
      cases areClosed : progress.closed with
      | nil =>
          rw [finish, isCurrent, areClosed] at finished
          cases finished
          exact .bare isCurrent areClosed
      | cons last others =>
          cases hasLoose : progress.looseLine with
          | some line =>
              rw [finish, isCurrent, areClosed, hasLoose] at finished
              cases finished
          | none =>
              rw [finish, isCurrent, areClosed, hasLoose] at finished
              cases finished
              rw [← areClosed]
              refine .methods isCurrent ?_ hasLoose
              rw [areClosed]
              exact List.cons_ne_nil last others

/-- What is accepted in the end is not mixed, and the bodies hold the
instructions that have been read. -/
theorem unmixed_of_finish (marked : progress.Marked) {lineCount : Nat} {bodies : List MethodBody}
    (finished : progress.finish lineCount = .ok bodies) :
    progress.Unmixed ∧ bodies.flatMap MethodBody.instructions = progress.listed := by
  cases finishes_of_finish finished with
  | bare noneOpen noneClosed =>
      refine ⟨.bare noneClosed noneOpen, ?_⟩
      simp [listed, noneClosed, noneOpen]
  | methods noneOpen someClosed noneLoose =>
      refine ⟨.enclosed (marked noneLoose), ?_⟩
      simp [listed, noneOpen, marked noneLoose]

private theorem isNesting_of_finish {lineCount : Nat} {error : Error}
    (refused : progress.finish lineCount = .error error) : error.fault.IsNesting := by
  unfold finish at refused
  split at refused <;> cases refused <;> exact .intro _

end Progress

/-! ## Listings -/

theorem le_line_of_instructionsFrom {number : Nat} {lines : List (List Char)} {error : Error}
    (refused : instructionsFrom number lines = .error error) : number ≤ error.line := by
  induction lines generalizing number with
  | nil => cases refused
  | cons text lines inductionHypothesis =>
      rw [instructionsFrom] at refused
      split at refused
      · cases refused
        exact Nat.le_refl number
      · exact Nat.le_of_succ_le (inductionHypothesis (Except.eq_error_of_map refused))

/-- The first of the lines that are accepted is read and accepted itself. -/
theorem exists_of_acceptFrom_cons {text : List Char} {lines : List (List Char)}
    {progress final : Progress} {number : Nat}
    (accepted : acceptFrom progress number (text :: lines) = .ok final) :
    Exists fun line => Exists fun next => Line.ofText text = .ok line ∧
      progress.Accepts number line next ∧ acceptFrom next (number + 1) lines = .ok final := by
  rw [acceptFrom] at accepted
  cases isNext : (Line.ofText text).bind (progress.accept number) with
  | error fault =>
      rw [isNext] at accepted
      cases accepted
  | ok next =>
      rw [isNext] at accepted
      rcases Except.exists_of_bind isNext with ⟨line, isLine, lineAccepted⟩
      exact ⟨line, next, isLine, Progress.accepts_of_accept lineAccepted, accepted⟩

/-- Lines that are accepted can all be read.  Unless methods and other
instructions are mixed in the end, what has been read is what stands in the
lines. -/
theorem instructionsFrom_of_acceptFrom {lines : List (List Char)} {progress final : Progress}
    {number : Nat} (accepted : acceptFrom progress number lines = .ok final) :
    Exists fun instructions => instructionsFrom number lines = .ok instructions ∧
      (progress.Marked -> final.Marked) ∧
      (final.Unmixed -> progress.Unmixed ∧ final.listed = progress.listed ++ instructions) := by
  -- Marks are passed on from the beginning to the end, and what is unmixed is
  -- passed back from the end.
  induction lines generalizing progress number with
  | nil =>
      cases accepted
      exact ⟨[], rfl, id, fun unmixed => ⟨unmixed, (List.append_nil _).symm⟩⟩
  | cons text lines inductionHypothesis =>
      rcases exists_of_acceptFrom_cons accepted with ⟨line, next, isLine, accepts, restAccepted⟩
      rcases inductionHypothesis restAccepted with ⟨others, othersRead, marked, unmixed⟩
      refine ⟨line.instruction?.toList ++ others, ?_, ?_, ?_⟩
      · simp only [instructionsFrom, isLine, othersRead]
        rfl
      · exact fun wasMarked => marked (accepts.marked wasMarked)
      · intro endsUnmixed
        rcases unmixed endsUnmixed with ⟨nextUnmixed, finalListed⟩
        rcases accepts.listed nextUnmixed with ⟨wasUnmixed, nextListed⟩
        refine ⟨wasUnmixed, ?_⟩
        rw [finalListed, nextListed, List.append_assoc]

/-- A line that is not accepted is the first one that cannot be read, or it
stands in front of that line and is out of place. -/
theorem error_of_acceptFrom {lines : List (List Char)} {progress : Progress} {number : Nat}
    {error : Error} (refused : acceptFrom progress number lines = .error error) :
    instructionsFrom number lines = .error error ∨
      error.fault.IsNesting ∧
        forall other, instructionsFrom number lines = .error other -> error.line < other.line := by
  induction lines generalizing progress number with
  | nil => cases refused
  | cons text lines inductionHypothesis =>
      rw [acceptFrom] at refused
      rw [instructionsFrom]
      cases isLine : Line.ofText text with
      | error fault =>
          rw [isLine] at refused
          cases refused
          exact .inl rfl
      | ok line =>
          cases lineAccepted : progress.accept number line with
          | error fault =>
              -- This line can be read, so one that cannot stands behind it.
              rw [isLine, Except.bind, lineAccepted] at refused
              cases refused
              refine .inr ⟨Progress.isNesting_of_accept lineAccepted, fun other isOther => ?_⟩
              exact le_line_of_instructionsFrom (Except.eq_error_of_map isOther)
          | ok next =>
              rw [isLine, Except.bind, lineAccepted] at refused
              rcases inductionHypothesis refused with same | ⟨isNesting, inFront⟩
              · refine .inl ?_
                simp only [same]
                rfl
              · exact .inr ⟨isNesting,
                  fun other isOther => inFront other (Except.eq_error_of_map isOther)⟩

/-- The readings of a listing agree.  Methods that can be read hold the
instructions of the listing, each once and in order.  A line that cannot be read
is reported by both readings, unless a line in front of it is out of place.  And
if there is no such line, then whatever else is wrong with the methods is their
nesting. -/
theorem methods_agree (source : String) :
    (forall bodies, methods source = .ok bodies ->
      instructions source = .ok (bodies.flatMap MethodBody.instructions)) ∧
    (forall error, instructions source = .error error ->
      methods source = .error error ∨
        Exists fun earlier => methods source = .error earlier ∧
          earlier.fault.IsNesting ∧ earlier.line < error.line) ∧
    (forall read error, instructions source = .ok read -> methods source = .error error ->
      error.fault.IsNesting) := by
  unfold instructions
  cases accepted : acceptFrom { } 1 (Text.lines source.toList) with
  | ok final =>
      have areMethods : methods source = final.finish (Text.lines source.toList).length := by
        simp only [methods, accepted, Except.bind]
      rw [areMethods]
      rcases instructionsFrom_of_acceptFrom accepted with ⟨read, isRead, marked, unmixed⟩
      refine ⟨?_, ?_, ?_⟩
      · intro bodies finished
        rcases Progress.unmixed_of_finish (marked fun _ => rfl) finished with
          ⟨finalUnmixed, finalListed⟩
        rw [isRead, finalListed, (unmixed finalUnmixed).2]
        rfl
      · intro error refused
        rw [isRead] at refused
        cases refused
      · intro _ error _ refused
        exact Progress.isNesting_of_finish refused
  | error error =>
      have isMethods : methods source = .error error := by
        simp only [methods, accepted, Except.bind]
      rw [isMethods]
      refine ⟨?_, ?_, ?_⟩
      · intro bodies finished
        cases finished
      · intro first isFirst
        rcases error_of_acceptFrom accepted with same | ⟨isNesting, inFront⟩
        · rw [same] at isFirst
          cases isFirst
          exact .inl rfl
        · exact .inr ⟨error, rfl, isNesting, inFront first isFirst⟩
      · intro read other isRead isOther
        cases isOther
        rcases error_of_acceptFrom accepted with same | ⟨isNesting, _⟩
        · rw [same] at isRead
          cases isRead
        · exact isNesting

/-- Two methods, and a class that changes inside of the first one. -/
def twoMethods : String :=
  ".class public LA;\n.method a()V\n.class LB;\n  nop # one\n  const/4 v0, 1\n.end method\n
.method b()V\n  return-void\n.end method\n"

/-- A method inside of a method, and behind it a line that cannot be read. -/
def nestedThenUnknown : String :=
  ".method a()V\n  nop\n.method b()V\n  nap\n.end method"

/-- An instruction in front of a method. -/
def looseThenMethod : String :=
  "nop\n.method a()V\n.end method"

theorem methods_agree_twoMethods :
    methods twoMethods = .ok [
      ⟨"LA;->a()V", [⟨.nop, []⟩, ⟨.constant (.narrow .bits4), [.register 0, .literal 1]⟩]⟩,
      ⟨"LB;->b()V", [⟨.returnVoid, []⟩]⟩] ∧
    instructions twoMethods = .ok [⟨.nop, []⟩,
      ⟨.constant (.narrow .bits4), [.register 0, .literal 1]⟩, ⟨.returnVoid, []⟩] ∧
    instructions nestedThenUnknown = .error ⟨4, .unknownMnemonic "nap"⟩ ∧
    (Exists fun earlier => methods nestedThenUnknown = .error earlier ∧
      earlier.fault.IsNesting ∧ earlier.line < 4) ∧
    instructions looseThenMethod = .ok [⟨.nop, []⟩] ∧
    methods looseThenMethod = .error ⟨1, .nesting .instructionOutsideMethod⟩ ∧
    Fault.IsNesting (.nesting .instructionOutsideMethod) := by
  have areMethods : methods twoMethods = .ok [
      ⟨"LA;->a()V", [⟨.nop, []⟩, ⟨.constant (.narrow .bits4), [.register 0, .literal 1]⟩]⟩,
      ⟨"LB;->b()V", [⟨.returnVoid, []⟩]⟩] := by
    rw [methods, twoMethods, String.toList_ofList]
    rfl
  have unknown : instructions nestedThenUnknown = .error ⟨4, .unknownMnemonic "nap"⟩ := by
    rw [instructions, nestedThenUnknown, String.toList_ofList]
    rfl
  have nested : methods nestedThenUnknown = .error ⟨3, .nesting .nestedMethod⟩ := by
    rw [methods, nestedThenUnknown, String.toList_ofList]
    rfl
  have read : instructions looseThenMethod = .ok [⟨.nop, []⟩] := by
    rw [instructions, looseThenMethod, String.toList_ofList]
    rfl
  have refused : methods looseThenMethod =
      .error ⟨1, .nesting .instructionOutsideMethod⟩ := by
    rw [methods, looseThenMethod, String.toList_ofList]
    rfl
  have earlier : Exists fun earlier => methods nestedThenUnknown = .error earlier ∧
      earlier.fault.IsNesting ∧ earlier.line < 4 := by
    rcases (methods_agree nestedThenUnknown).2.1 _ unknown with same | earlier
    · rw [nested] at same
      cases same
    · exact earlier
  exact ⟨areMethods, (methods_agree twoMethods).1 _ areMethods, unknown, earlier, read, refused,
    (methods_agree looseThenMethod).2.2 _ _ read refused⟩

end Listing
end DalvikFold
