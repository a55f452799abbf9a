import DalvikFold.Proofs.NestedLines

namespace DalvikFold
namespace Listing

/-!
# Methods that do not nest

A listing whose lines can be read is accepted if it has no methods or if its
methods are well-nested.  Each method then holds the instructions up to its end,
and its class is the latest one in front of it, even if that stands inside of
another method.  In all other cases the fault is reported that comes first.

The reading of a listing keeps track of the lines behind it: what has been read
follows the lines up to a position.  One more line keeps this up, or else it is
out of place there.  What follows all lines is what becomes of the listing.
-/

/-! ## The bodies of methods -/

def instructionsToEnd (lines : List Line) : List Instruction :=
  (lines.takeWhile (· ≠ .methodEnd)).filterMap Line.instruction?

/-- The descriptor of a method, of a class if there is one. -/
def memberName : Option String -> String -> String
  | some owner, signature => owner ++ "->" ++ signature
  | none, signature => signature

/-- The method that starts at a position, if one does.  Its class is the latest
one in front of it. -/
def bodyAt (lines : List Line) (position : Nat) : Option MethodBody :=
  match lines[position]? with
  | some (.methodStart signature) =>
      some ⟨memberName (latest Line.class? (lines.take position)) signature,
        instructionsToEnd (lines.drop (position + 1))⟩
  | _ => none

/-- The methods that start in the lines, in order. -/
def bodiesOf (lines : List Line) : List MethodBody :=
  (List.range lines.length).filterMap (bodyAt lines)

section Bodies

variable {lines : List Line} {count : Nat} {line : Line}
variable (isLine : lines[count]? = some line)
include isLine

private theorem instructionsToEnd_drop (notEnd : line ≠ .methodEnd) :
    instructionsToEnd (lines.drop count) =
      line.instruction?.toList ++ instructionsToEnd (lines.drop (count + 1)) := by
  rcases List.getElem?_eq_some_iff.mp isLine with ⟨inRange, isLine⟩
  rw [List.drop_eq_getElem_cons inRange, isLine, instructionsToEnd,
    List.takeWhile_cons_of_pos (by simpa using notEnd), List.filterMap_cons]
  cases line.instruction? <;> rfl

private theorem instructionsToEnd_of_end (isEnd : line = .methodEnd) :
    instructionsToEnd (lines.drop count) = [] := by
  rcases List.getElem?_eq_some_iff.mp isLine with ⟨inRange, isLine⟩
  rw [List.drop_eq_getElem_cons inRange, isLine, isEnd]
  rfl

end Bodies

/-! ## What has been read follows the lines -/

/-- The body of a method that has started, with the instructions up to its
end. -/
def OpenMethod.closeBefore (method : OpenMethod) (rest : List Line) : MethodBody :=
  ⟨method.descriptor, method.reversed.reverse ++ instructionsToEnd rest⟩

/-- The number of the first line with an instruction outside of methods, among
the lines in front of a position. -/
inductive FirstLoose (lines : List Line) (count : Nat) : Option Nat -> Prop where
  | none (enclosed : forall position, position < count -> ¬ IsLoose lines position) :
      FirstLoose lines count none
  | some {position : Nat} (inFront : position < count) (isLoose : IsLoose lines position)
      (first : forall earlier, earlier < position -> ¬ IsLoose lines earlier) :
      FirstLoose lines count (some (position + 1))

theorem FirstLoose.succ {lines : List Line} {count : Nat} {looseLine : Option Nat}
    (isFirst : FirstLoose lines count looseLine) (notLoose : ¬ IsLoose lines count) :
    FirstLoose lines (count + 1) looseLine := by
  cases isFirst with
  | none enclosed =>
      refine .none fun position inFront => ?_
      rcases Nat.lt_succ_iff_lt_or_eq.mp inFront with inFront | isHere
      · exact enclosed position inFront
      · rw [isHere]
        exact notLoose
  | some inFront isLoose first => exact .some (Nat.lt_succ_of_lt inFront) isLoose first

namespace Progress

/-- What has been read is what stands in the lines in front of a position.  A
method that has started counts with all of its instructions. -/
structure Follows (progress : Progress) (lines : List Line) (count : Nat) : Prop where
  bounded : count ≤ lines.length
  placed : forall earlier, earlier < count -> forall fault, ¬ Misplaced lines earlier fault
  owner_eq : progress.owner = latest Line.class? (lines.take count)
  isOpen_eq : progress.current.isSome = isOpen lines count
  hasMethod_iff : progress.HasMethod <-> HasMethodLine (lines.take count)
  bodies_eq : progress.closed.reverse ++
      (progress.current.map (·.closeBefore (lines.drop count))).toList =
    (List.range count).filterMap (bodyAt lines)
  loose_eq : progress.HasMethod ∨
    progress.loose.reverse = (lines.take count).filterMap Line.instruction?
  firstLoose : FirstLoose lines count progress.looseLine

private theorem describe_eq (progress : Progress) (signature : String) :
    progress.describe signature = memberName progress.owner signature := by
  unfold describe
  cases progress.owner <;> rfl

section Steps

variable {progress next : Progress} {number count : Nat} {line : Line} {lines : List Line}

theorem Accepts.owner_eq (accepts : progress.Accepts number line next) :
    next.owner = line.class?.or progress.owner := by
  cases accepts <;> rfl

theorem Accepts.isOpen_eq (accepts : progress.Accepts number line next) :
    next.current.isSome = line.opens?.getD progress.current.isSome := by
  cases accepts with
  | enclosed isOpen instruction =>
      rw [isOpen]
      rfl
  | _ => rfl

theorem Accepts.hasMethod_iff (accepts : progress.Accepts number line next) :
    next.HasMethod <-> progress.HasMethod ∨ line.opens? ≠ none := by
  cases accepts with
  | skip | classStart | loose => simp [HasMethod, Line.opens?]
  | methodStart noneOpen signature => simp [HasMethod, Line.opens?]
  | methodEnd isOpen => simp [HasMethod, Line.opens?]
  | enclosed isOpen instruction => simp [HasMethod, Line.opens?, isOpen]

section Placed

variable (isLine : lines[count]? = some line)
include isLine

theorem Accepts.placed (accepts : progress.Accepts number line next)
    (sameOpen : progress.current.isSome = isOpen lines count) (fault : NestingFault) :
    ¬ Misplaced lines count fault := by
  intro misplaced
  cases misplaced with
  | nestedMethod isStart inMethod =>
      rw [isLine] at isStart
      cases isStart
      cases accepts with
      | methodStart noneOpen =>
          rw [noneOpen, inMethod] at sameOpen
          cases sameOpen
  | endOutsideMethod isEnd notInMethod =>
      rw [isLine] at isEnd
      cases isEnd
      cases accepts with
      | methodEnd isOpen =>
          rw [isOpen, notInMethod] at sameOpen
          cases sameOpen

/-- A line that is not accepted is out of place. -/
theorem exists_misplaced {fault : Fault} (refused : progress.accept number line = .error fault)
    (sameOpen : progress.current.isSome = isOpen lines count) :
    Exists fun nesting => fault = .nesting nesting ∧ Misplaced lines count nesting := by
  cases line with
  | skip | classStart => cases refused
  | methodStart signature =>
      cases isCurrent : progress.current with
      | none =>
          rw [accept, isCurrent] at refused
          cases refused
      | some method =>
          rw [accept, isCurrent] at refused
          cases refused
          rw [isCurrent] at sameOpen
          exact ⟨_, rfl, .nestedMethod isLine sameOpen.symm⟩
  | methodEnd =>
      cases isCurrent : progress.current with
      | none =>
          rw [accept, isCurrent] at refused
          cases refused
          rw [isCurrent] at sameOpen
          exact ⟨_, rfl, .endOutsideMethod isLine sameOpen.symm⟩
      | some method =>
          rw [accept, isCurrent] at refused
          cases refused
  | code instruction =>
      cases isCurrent : progress.current <;> rw [accept, isCurrent] at refused <;> cases refused

/-- A line that does not end a method leaves the body as it will be. -/
theorem closeBefore_drop (notEnd : line ≠ .methodEnd) (descriptor : String)
    (reversed : List Instruction) :
    OpenMethod.closeBefore ⟨descriptor, reversed⟩ (lines.drop count) =
      OpenMethod.closeBefore ⟨descriptor, line.instruction?.toList ++ reversed⟩
        (lines.drop (count + 1)) := by
  simp only [OpenMethod.closeBefore, instructionsToEnd_drop isLine notEnd, List.reverse_append,
    List.append_assoc]
  cases line.instruction? <;> rfl

theorem Accepts.bodies_eq (accepts : progress.Accepts number line next)
    (sameOwner : progress.owner = latest Line.class? (lines.take count)) :
    next.closed.reverse ++ (next.current.map (·.closeBefore (lines.drop (count + 1)))).toList =
      progress.closed.reverse ++ (progress.current.map (·.closeBefore (lines.drop count))).toList ++
        (bodyAt lines count).toList := by
  cases accepts with
  | skip | classStart descriptor =>
      have notStart : bodyAt lines count = none := by simp only [bodyAt, isLine]
      rw [notStart, Option.toList_none, List.append_nil]
      cases isCurrent : progress.current with
      | none => simp
      | some method =>
          simp only [Option.map_some, closeBefore_drop isLine (nofun) method.descriptor]
          rfl
  | methodStart noneOpen signature =>
      have isStart : bodyAt lines count =
          some ⟨progress.describe signature, instructionsToEnd (lines.drop (count + 1))⟩ := by
        simp only [bodyAt, isLine, describe_eq, sameOwner]
      rw [isStart, noneOpen]
      simp [OpenMethod.closeBefore]
  | @methodEnd method isOpen =>
      have notStart : bodyAt lines count = none := by simp only [bodyAt, isLine]
      have isClosed : method.closeBefore (lines.drop count) = method.close := by
        rw [OpenMethod.closeBefore, instructionsToEnd_of_end isLine rfl, List.append_nil]
        rfl
      rw [notStart, isOpen]
      simp [isClosed]
  | @enclosed method isOpen instruction =>
      have notStart : bodyAt lines count = none := by simp only [bodyAt, isLine]
      rw [notStart, isOpen]
      simp only [Option.map_some, closeBefore_drop isLine (nofun) method.descriptor]
      simp [Line.instruction?]
  | loose noneOpen instruction =>
      have notStart : bodyAt lines count = none := by simp only [bodyAt, isLine]
      rw [notStart, noneOpen]
      simp

theorem Accepts.loose_eq (accepts : progress.Accepts number line next)
    (wasLoose : progress.HasMethod ∨
      progress.loose.reverse = (lines.take count).filterMap Line.instruction?) :
    next.HasMethod ∨
      next.loose.reverse = (lines.take (count + 1)).filterMap Line.instruction? := by
  rw [take_succ_eq isLine, List.filterMap_append]
  cases accepts with
  | skip | classStart descriptor =>
      refine wasLoose.imp id fun same => ?_
      exact same.trans (List.append_nil _).symm
  | methodStart noneOpen signature => exact .inl (.inl (Option.some_ne_none _))
  | methodEnd isOpen => exact .inl (.inr (List.cons_ne_nil _ _))
  | enclosed isOpen instruction => exact .inl (.inl (Option.some_ne_none _))
  | loose noneOpen instruction =>
      refine wasLoose.imp id fun same => ?_
      rw [List.reverse_cons, same]
      rfl

theorem Accepts.firstLoose (accepts : progress.Accepts (count + 1) line next)
    (sameOpen : progress.current.isSome = isOpen lines count)
    (wasFirst : FirstLoose lines count progress.looseLine) :
    FirstLoose lines (count + 1) next.looseLine := by
  cases accepts with
  | loose noneOpen instruction =>
      have isLoose : IsLoose lines count := by
        rw [noneOpen] at sameOpen
        exact ⟨⟨instruction, isLine⟩, sameOpen.symm⟩
      generalize progress.looseLine = looseLine at wasFirst
      cases wasFirst with
      | none enclosed => exact .some (Nat.lt_succ_self count) isLoose enclosed
      | some inFront isLoose first => exact .some (Nat.lt_succ_of_lt inFront) isLoose first
  | enclosed isOpen instruction =>
      refine wasFirst.succ ?_
      rintro ⟨_, notInMethod⟩
      rw [isOpen, notInMethod] at sameOpen
      cases sameOpen
  | skip | classStart descriptor | methodStart noneOpen signature | methodEnd isOpen =>
      refine wasFirst.succ ?_
      rintro ⟨⟨instruction, isCode⟩, _⟩
      rw [isLine] at isCode
      cases isCode

/-- What has been read goes on following the lines. -/
theorem Accepts.follows (accepts : progress.Accepts (count + 1) line next)
    (follows : progress.Follows lines count) : next.Follows lines (count + 1) where
  bounded := (List.getElem?_eq_some_iff.mp isLine).1
  placed := by
    intro earlier inFront
    rcases Nat.lt_succ_iff_lt_or_eq.mp inFront with inFront | isHere
    · exact follows.placed earlier inFront
    · rw [isHere]
      exact accepts.placed isLine follows.isOpen_eq
  owner_eq := by
    rw [accepts.owner_eq, follows.owner_eq, take_succ_eq isLine, latest_snoc]
  isOpen_eq := by
    rw [accepts.isOpen_eq, follows.isOpen_eq, isOpen_succ isLine]
  hasMethod_iff := by
    rw [accepts.hasMethod_iff, follows.hasMethod_iff, take_succ_eq isLine, HasMethodLine]
    simp [HasMethodLine, or_and_right, exists_or]
  bodies_eq := by
    rw [accepts.bodies_eq isLine follows.owner_eq, follows.bodies_eq, List.range_succ,
      List.filterMap_append]
    cases isBody : bodyAt lines count <;> simp [isBody]
  loose_eq := accepts.loose_eq isLine follows.loose_eq
  firstLoose := accepts.firstLoose isLine follows.isOpen_eq follows.firstLoose

end Placed

end Steps

end Progress

/-! ## All lines -/

/-- The texts of the lines of a listing can all be read. -/
def Reads (texts : List (List Char)) (lines : List Line) : Prop :=
  List.Forall₂ (fun text line => Line.ofText text = .ok line) texts lines

private theorem Progress.follows_nothing (lines : List Line) : Progress.Follows { } lines 0 where
  bounded := Nat.zero_le _
  placed := fun earlier inFront => absurd inFront (Nat.not_lt_zero earlier)
  owner_eq := rfl
  isOpen_eq := rfl
  hasMethod_iff := by simp [Progress.HasMethod, HasMethodLine]
  bodies_eq := rfl
  loose_eq := .inr rfl
  firstLoose := .none fun position inFront => absurd inFront (Nat.not_lt_zero position)

/-- Lines that can be read are accepted to the end, or up to the first one that
is out of place. -/
theorem acceptFrom_follows {lines : List Line} {texts : List (List Char)} {progress : Progress}
    {count : Nat} (reads : Reads texts (lines.drop count))
    (follows : progress.Follows lines count) :
    (Exists fun final => acceptFrom progress (count + 1) texts = .ok final ∧
      final.Follows lines lines.length) ∨
    (Exists fun position => Exists fun fault =>
      acceptFrom progress (count + 1) texts = .error ⟨position + 1, .nesting fault⟩ ∧
        Misplaced lines position fault ∧
        forall earlier, earlier < position -> forall other, ¬ Misplaced lines earlier other) := by
  induction texts generalizing progress count with
  | nil =>
      have isEnd : count = lines.length := by
        have nothing : lines.drop count = [] := List.forall₂_nil_left_iff.mp reads
        exact Nat.le_antisymm follows.bounded (List.drop_eq_nil_iff.mp nothing)
      exact .inl ⟨progress, rfl, isEnd ▸ follows⟩
  | cons text texts inductionHypothesis =>
      rcases List.forall₂_cons_left_iff.mp reads with ⟨line, others, isRead, othersRead, areLines⟩
      rcases getElem?_of_drop_eq_cons areLines with ⟨isLine, areOthers⟩
      rw [acceptFrom, isRead, Except.bind]
      cases lineAccepted : progress.accept (count + 1) line with
      | ok next =>
          have accepts := Progress.accepts_of_accept lineAccepted
          rw [← areOthers] at othersRead
          exact inductionHypothesis othersRead (accepts.follows isLine follows)
      | error fault =>
          rcases Progress.exists_misplaced isLine lineAccepted follows.isOpen_eq with
            ⟨nesting, rfl, misplaced⟩
          exact .inr ⟨count, nesting, rfl, misplaced, follows.placed⟩

/-! ## Outcomes -/

/-- What becomes of lines. -/
inductive Outcome (lines : List Line) : Except Error (List MethodBody) -> Prop where
  | bare (noMethodLine : ¬ HasMethodLine lines) :
      Outcome lines (.ok [⟨"", lines.filterMap Line.instruction?⟩])
  | methods (wellNested : WellNested lines) : Outcome lines (.ok (bodiesOf lines))
  | refused {error : Error} (misnested : Misnested lines error) : Outcome lines (.error error)

section Outcomes

variable {lines : List Line}

namespace Progress.Follows

variable {final : Progress} (follows : final.Follows lines lines.length)
include follows

theorem placed_everywhere (position : Nat) (fault : NestingFault) :
    ¬ Misplaced lines position fault :=
  fun misplaced => follows.placed position misplaced.lt_length fault misplaced

theorem finish_outcome : Outcome lines (final.finish lines.length) := by
  have sameOpen := follows.isOpen_eq
  have hasMethod := follows.hasMethod_iff
  have bodies := follows.bodies_eq
  have loose := follows.loose_eq
  have firstLoose := follows.firstLoose
  rw [List.take_length] at hasMethod loose
  unfold finish
  cases isCurrent : final.current with
  | some method =>
      rw [isCurrent] at sameOpen
      exact .refused (.missingEnd follows.placed_everywhere sameOpen.symm)
  | none =>
      rw [isCurrent] at sameOpen bodies
      cases areClosed : final.closed with
      | nil =>
          have noMethod : ¬ final.HasMethod := by simp [HasMethod, isCurrent, areClosed]
          simp only
          rw [loose.resolve_left noMethod]
          exact .bare fun hasMethodLine => noMethod (hasMethod.mpr hasMethodLine)
      | cons last others =>
          have someClosed : final.closed ≠ [] := areClosed ▸ List.cons_ne_nil last others
          cases hasLoose : final.looseLine with
          | none =>
              rw [hasLoose] at firstLoose
              cases firstLoose with
              | none enclosed =>
                  simp only [Option.map_none, Option.toList_none, List.append_nil] at bodies
                  rw [areClosed] at bodies
                  simp only
                  rw [bodies]
                  exact .methods ⟨hasMethod.mp (.inr someClosed), follows.placed_everywhere,
                    sameOpen.symm,
                    fun position isLoose => enclosed position isLoose.lt_length isLoose⟩
          | some number =>
              rw [hasLoose] at firstLoose
              cases firstLoose with
              | some inFront isLoose first =>
                  exact .refused (.instructionOutsideMethod follows.placed_everywhere sameOpen.symm
                    (hasMethod.mp (.inr someClosed)) isLoose first)

end Progress.Follows

/-- The lines of a listing decide what becomes of it. -/
theorem methods_outcome {source : String} (reads : Reads (Text.lines source.toList) lines) :
    Outcome lines (methods source) := by
  have sameLength : (Text.lines source.toList).length = lines.length := reads.length_eq
  unfold methods
  simp only [sameLength]
  rcases acceptFrom_follows reads (Progress.follows_nothing lines) with
    ⟨final, accepted, follows⟩ | ⟨position, fault, refused, misplaced, first⟩
  · rw [accepted]
    exact follows.finish_outcome
  · rw [refused]
    exact .refused (.misplaced misplaced first)

end Outcomes

open scoped Computability

/-! ## Listings -/

/-- A listing whose lines can be read is accepted if it has no methods or if its
methods are well-nested, with its bodies as they stand in the lines.  Everything
else is refused, for the fault that comes first.  Which lines are directives of
methods and classes is told by their first and last words. -/
theorem methods_wellNested {source : String} {lines : List Line}
    (reads : Reads (Text.lines source.toList) lines) :
    ((Exists fun bodies => methods source = .ok bodies) <->
      ¬ HasMethodLine lines ∨ lines.filterMap Line.mark? ∈ methodForm * methodForm∗) ∧
    (¬ HasMethodLine lines ->
      methods source = .ok [⟨"", lines.filterMap Line.instruction?⟩]) ∧
    (lines.filterMap Line.mark? ∈ methodForm * methodForm∗ ->
      methods source = .ok (bodiesOf lines)) ∧
    (forall error, methods source = .error error <-> Misnested lines error) ∧
    (forall text line, line ≠ .skip -> line.instruction? = none ->
      (Line.ofText text = .ok line <-> Exists fun name => Exists fun last =>
        Directive text name last ∧ Line.ofDirective? name last = some line)) := by
  have outcome := methods_outcome reads
  generalize methods source = result at outcome
  rw [← wellNested_iff]
  refine ⟨?_, ?_, ?_, ?_, fun text line => Line.ofText_eq_iff⟩
  · cases outcome with
    | bare noMethodLine => exact iff_of_true ⟨_, rfl⟩ (.inl noMethodLine)
    | methods wellNested => exact iff_of_true ⟨_, rfl⟩ (.inr wellNested)
    | refused misnested =>
        refine iff_of_false (by rintro ⟨_, accepted⟩; cases accepted) ?_
        rintro (noMethodLine | wellNested)
        · exact noMethodLine misnested.hasMethodLine
        · exact wellNested.not_misnested _ misnested
  · intro noMethodLine
    cases outcome with
    | bare => rfl
    | methods wellNested => exact (noMethodLine wellNested.hasMethodLine).elim
    | refused misnested => exact (noMethodLine misnested.hasMethodLine).elim
  · intro wellNested
    cases outcome with
    | bare noMethodLine => exact (noMethodLine wellNested.hasMethodLine).elim
    | methods => rfl
    | refused misnested => exact (wellNested.not_misnested _ misnested).elim
  · intro error
    cases outcome with
    | bare noMethodLine =>
        exact iff_of_false nofun fun misnested => noMethodLine misnested.hasMethodLine
    | methods wellNested => exact iff_of_false nofun (wellNested.not_misnested error)
    | refused misnested =>
        constructor
        · intro refused
          cases refused
          exact misnested
        · exact fun others => congrArg Except.error (misnested.unique others)

/-- The end of no method, and a method without an end. -/
def endThenMethod : String :=
  ".end method\n.method a()V\n  nop"

/-- The class of a method may change inside of the method before it, and of two
faults the first one is reported. -/
theorem methods_wellNested_twoMethods :
    let load : Instruction := ⟨.constant (.narrow .bits4), [.register 0, .literal 1]⟩
    let lines : List Line := [.classStart "LA;", .methodStart "a()V", .classStart "LB;",
      .code ⟨.nop, []⟩, .code load, .methodEnd, .skip, .methodStart "b()V",
      .code ⟨.returnVoid, []⟩, .methodEnd]
    let faultyLines : List Line := [.methodEnd, .methodStart "a()V", .code ⟨.nop, []⟩]
    Reads (Text.lines twoMethods.toList) lines ∧
      lines.filterMap Line.mark? ∈ methodForm * methodForm∗ ∧
      methods twoMethods = .ok (bodiesOf lines) ∧
      bodiesOf lines =
        [⟨"LA;->a()V", [⟨.nop, []⟩, load]⟩, ⟨"LB;->b()V", [⟨.returnVoid, []⟩]⟩] ∧
      Reads (Text.lines endThenMethod.toList) faultyLines ∧
      methods endThenMethod = .error ⟨1, .nesting .endOutsideMethod⟩ := by
  intro load lines faultyLines
  have reads : Reads (Text.lines twoMethods.toList) lines := by
    rw [twoMethods, String.toList_ofList]
    exact .cons rfl (.cons rfl (.cons rfl (.cons rfl (.cons rfl (.cons rfl (.cons rfl (.cons rfl
      (.cons rfl (.cons rfl .nil)))))))))
  have readsFaulty : Reads (Text.lines endThenMethod.toList) faultyLines := by
    rw [endThenMethod, String.toList_ofList]
    exact .cons rfl (.cons rfl (.cons rfl .nil))
  have inForm : lines.filterMap Line.mark? ∈ methodForm * methodForm∗ := by
    change [Mark.start, .code, .code, .finish, .start, .code, .finish] ∈ methodForm * methodForm∗
    rw [methodForm_mul_kstar]
    simp [cons_mem_singleton_mul, cons_mem_restForm_iff, nil_mem_restForm_iff, Mark.step?]
  have misnested : Misnested faultyLines ⟨1, .nesting .endOutsideMethod⟩ :=
    .misplaced (.endOutsideMethod rfl rfl) fun earlier inFront =>
      absurd inFront (Nat.not_lt_zero earlier)
  exact ⟨reads, inForm, (methods_wellNested reads).2.2.1 inForm, rfl, readsFaulty,
    ((methods_wellNested readsFaulty).2.2.2.1 _).mpr misnested⟩

end Listing
end DalvikFold
