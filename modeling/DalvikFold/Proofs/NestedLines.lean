import Mathlib.Computability.Language
import DalvikFold.Proofs.NamedMethods

namespace DalvikFold
namespace Listing

/-!
# Lines that nest

The lines of a listing that start and end methods, and those with instructions,
are to follow one another like the words of a regular language: one method after
the other, and within each of them instructions only.  All other lines are
looked through.

What can be wrong with lines is said apart from this, by positions, so that it
can be told where.  The first line that is out of place comes before everything
else, and then a method without an end, which is noticed behind the last line.
Instructions outside of methods come last, because they are no fault without
methods.  Lines of methods are of the language if and only if nothing is wrong
with them.
-/

/-! ## What lines say -/

/-- A directive whose first and last word are given.  There are two of them at
least. -/
def Directive (text : List Char) (name last : String) : Prop :=
  Exists fun directive => Exists fun others =>
    Text.trim (stripComment text) = '.' :: directive ∧
      Text.words directive = name.toList :: others ∧ others.getLast? = some last.toList

namespace Line

/-- The class that a line puts in force. -/
def class? : Line -> Option String
  | .classStart descriptor => some descriptor
  | _ => none

/-- Whether a method is open behind a line, if the line starts or ends one. -/
def opens? : Line -> Option Bool
  | .methodStart _ => some true
  | .methodEnd => some false
  | _ => none

/-- What a directive says, by its first and its last word. -/
def ofDirective? (name last : String) : Option Line :=
  if name = "class" then some (.classStart last)
  else if name = "method" then some (.methodStart last)
  else if name = "end" ∧ last = "method" then some .methodEnd
  else none

private theorem ofWords_single {first : List Char} {others : List (List Char)}
    (noneLast : others.getLast? = none) : ofWords (first :: others) = .skip := by
  rw [ofWords, noneLast]
  split
  all_goals first | rfl | contradiction

theorem ofWords_cons {first last : List Char} {others : List (List Char)}
    (isLast : others.getLast? = some last) :
    ofWords (first :: others) =
      (ofDirective? (String.ofList first) (String.ofList last)).getD .skip := by
  generalize isName : String.ofList first = name
  rw [ofWords, isLast, isName, ofDirective?]
  by_cases isClass : name = "class"
  · subst isClass
    rfl
  · by_cases isMethod : name = "method"
    · subst isMethod
      rfl
    · by_cases isEnd : name = "end"
      · subst isEnd
        by_cases endsMethod : String.ofList last = "method" <;> simp [endsMethod]
      · simp [isClass, isMethod, isEnd]

/-- A line that is neither skipped nor an instruction is a directive. -/
theorem ofText_eq_iff {text : List Char} {line : Line} (notSkip : line ≠ .skip)
    (notCode : line.instruction? = none) :
    ofText text = .ok line <-> Exists fun name => Exists fun last =>
      Directive text name last ∧ ofDirective? name last = some line := by
  constructor
  · intro isLine
    unfold ofText ofTrimmed at isLine
    split at isLine
    case h_1 | h_2 =>
      cases isLine
      exact (notSkip rfl).elim
    case h_3 directive isDirective =>
      have isLine := Except.ok.inj isLine
      cases areWords : Text.words directive with
      | nil =>
          rw [areWords] at isLine
          exact (notSkip isLine.symm).elim
      | cons first others =>
          rw [areWords] at isLine
          cases isLast : others.getLast? with
          | none =>
              rw [ofWords_single isLast] at isLine
              exact (notSkip isLine.symm).elim
          | some last =>
              rw [ofWords_cons isLast] at isLine
              cases isFound : ofDirective? (String.ofList first) (String.ofList last) with
              | none =>
                  rw [isFound] at isLine
                  exact (notSkip isLine.symm).elim
              | some found =>
                  rw [isFound] at isLine
                  cases isLine
                  refine ⟨_, _, ⟨directive, others, isDirective, ?_, ?_⟩, isFound⟩
                  · rw [String.toList_ofList, areWords]
                  · rw [String.toList_ofList, isLast]
    case h_4 =>
      rcases exists_code_of_ofInstruction isLine with ⟨instruction, rfl⟩
      cases notCode
  · rintro ⟨name, last, ⟨directive, others, isDirective, areWords, isLast⟩, isLine⟩
    rw [ofText, isDirective]
    change Except.ok (ofWords (Text.words directive)) = _
    rw [areWords, ofWords_cons isLast, String.ofList_toList, String.ofList_toList, isLine]
    rfl

end Line

/-! ## What is wrong with the nesting of lines -/

/-- The latest of what some lines say. -/
def latest {Said : Type} (said? : Line -> Option Said) (lines : List Line) : Option Said :=
  (lines.filterMap said?).getLast?

def isOpen (lines : List Line) (position : Nat) : Bool :=
  (latest Line.opens? (lines.take position)).getD false

def HasMethodLine (lines : List Line) : Prop :=
  Exists fun line => line ∈ lines ∧ line.opens? ≠ none

/-- The line at a position is out of place. -/
inductive Misplaced (lines : List Line) (position : Nat) : NestingFault -> Prop where
  | nestedMethod {signature : String} (isStart : lines[position]? = some (.methodStart signature))
      (inMethod : isOpen lines position = true) : Misplaced lines position .nestedMethod
  | endOutsideMethod (isEnd : lines[position]? = some .methodEnd)
      (notInMethod : isOpen lines position = false) : Misplaced lines position .endOutsideMethod

/-- There is an instruction outside of methods at a position. -/
def IsLoose (lines : List Line) (position : Nat) : Prop :=
  (Exists fun instruction => lines[position]? = some (.code instruction)) ∧
    isOpen lines position = false

/-- What is to be reported about lines, and at which line. -/
inductive Misnested (lines : List Line) : Error -> Prop where
  | misplaced {position : Nat} {fault : NestingFault} (misplaced : Misplaced lines position fault)
      (first : forall earlier, earlier < position ->
        forall other, ¬ Misplaced lines earlier other) :
      Misnested lines ⟨position + 1, .nesting fault⟩
  | missingEnd (placed : forall position fault, ¬ Misplaced lines position fault)
      (inMethod : isOpen lines lines.length = true) :
      Misnested lines ⟨lines.length, .nesting .missingEnd⟩
  | instructionOutsideMethod {position : Nat}
      (placed : forall position fault, ¬ Misplaced lines position fault)
      (notInMethod : isOpen lines lines.length = false) (hasMethodLine : HasMethodLine lines)
      (isLoose : IsLoose lines position)
      (first : forall earlier, earlier < position -> ¬ IsLoose lines earlier) :
      Misnested lines ⟨position + 1, .nesting .instructionOutsideMethod⟩

/-- Lines of methods, with nothing to be reported. -/
structure WellNested (lines : List Line) : Prop where
  hasMethodLine : HasMethodLine lines
  placed : forall position fault, ¬ Misplaced lines position fault
  ended : isOpen lines lines.length = false
  enclosed : forall position, ¬ IsLoose lines position

/-! ## One line -/

theorem latest_snoc {Said : Type} (said? : Line -> Option Said) (lines : List Line) (line : Line) :
    latest said? (lines ++ [line]) = (said? line).or (latest said? lines) := by
  unfold latest
  rw [List.filterMap_append, List.getLast?_append]
  cases isSaid : said? line with
  | none => simp [isSaid]
  | some said => simp [isSaid]

section Positions

variable {lines : List Line} {count : Nat} {line : Line}

/-- Reading on from a position. -/
theorem getElem?_of_drop_eq_cons {others : List Line}
    (areLines : lines.drop count = line :: others) :
    lines[count]? = some line ∧ lines.drop (count + 1) = others := by
  constructor
  · rw [← List.head?_drop, areLines]
    rfl
  · rw [← List.tail_drop, areLines]
    rfl

variable (isLine : lines[count]? = some line)
include isLine

theorem take_succ_eq : lines.take (count + 1) = lines.take count ++ [line] := by
  rw [List.take_add_one, isLine]
  rfl

theorem isOpen_succ : isOpen lines (count + 1) = line.opens?.getD (isOpen lines count) := by
  rw [isOpen, isOpen, take_succ_eq isLine, latest_snoc]
  cases line.opens? <;> rfl

end Positions

/-! ## One fault at most -/

section Faults

variable {lines : List Line} {position : Nat}

theorem Misplaced.lt_length {fault : NestingFault} (misplaced : Misplaced lines position fault) :
    position < lines.length := by
  cases misplaced with
  | nestedMethod isStart => exact (List.getElem?_eq_some_iff.mp isStart).1
  | endOutsideMethod isEnd => exact (List.getElem?_eq_some_iff.mp isEnd).1

theorem IsLoose.lt_length (isLoose : IsLoose lines position) : position < lines.length := by
  rcases isLoose with ⟨⟨instruction, isCode⟩, _⟩
  exact (List.getElem?_eq_some_iff.mp isCode).1

theorem Misplaced.unique {first second : NestingFault} (isFirst : Misplaced lines position first)
    (isSecond : Misplaced lines position second) : first = second := by
  cases isFirst with
  | nestedMethod isStart =>
      cases isSecond with
      | nestedMethod => rfl
      | endOutsideMethod isEnd =>
          rw [isStart] at isEnd
          cases isEnd
  | endOutsideMethod isEnd =>
      cases isSecond with
      | nestedMethod isStart =>
          rw [isEnd] at isStart
          cases isStart
      | endOutsideMethod => rfl

/-- There is at most one first position. -/
theorem eq_of_first (holds : Nat -> Prop) {first second : Nat} (isFirst : holds first)
    (noneBeforeFirst : forall earlier, earlier < first -> ¬ holds earlier) (isSecond : holds second)
    (noneBeforeSecond : forall earlier, earlier < second -> ¬ holds earlier) : first = second :=
  Nat.le_antisymm (Nat.le_of_not_lt fun behind => noneBeforeFirst second behind isSecond)
    (Nat.le_of_not_lt fun inFront => noneBeforeSecond first inFront isFirst)

theorem Misnested.unique {first second : Error} (isFirst : Misnested lines first)
    (isSecond : Misnested lines second) : first = second := by
  cases isFirst with
  | @misplaced position fault misplaced noneBefore =>
      cases isSecond with
      | @misplaced other otherFault otherMisplaced noneBeforeOther =>
          have same : position = other := eq_of_first
            (fun position => Exists (Misplaced lines position)) ⟨fault, misplaced⟩
            (fun earlier inFront => not_exists.mpr (noneBefore earlier inFront))
            ⟨otherFault, otherMisplaced⟩
            (fun earlier inFront => not_exists.mpr (noneBeforeOther earlier inFront))
          subst same
          rw [misplaced.unique otherMisplaced]
      | missingEnd placed | instructionOutsideMethod placed =>
          exact (placed position fault misplaced).elim
  | missingEnd placed inMethod =>
      cases isSecond with
      | misplaced misplaced => exact (placed _ _ misplaced).elim
      | missingEnd => rfl
      | instructionOutsideMethod _ notInMethod =>
          rw [inMethod] at notInMethod
          cases notInMethod
  | instructionOutsideMethod placed notInMethod _ isLoose noneBefore =>
      cases isSecond with
      | misplaced misplaced => exact (placed _ _ misplaced).elim
      | missingEnd _ inMethod =>
          rw [inMethod] at notInMethod
          cases notInMethod
      | instructionOutsideMethod _ _ _ otherIsLoose noneBeforeOther =>
          rw [eq_of_first (IsLoose lines) isLoose noneBefore otherIsLoose noneBeforeOther]

/-- Nothing is reported about lines of methods. -/
theorem WellNested.not_misnested (wellNested : WellNested lines) (error : Error) :
    ¬ Misnested lines error := by
  intro misnested
  cases misnested with
  | misplaced misplaced => exact wellNested.placed _ _ misplaced
  | missingEnd _ inMethod =>
      rw [wellNested.ended] at inMethod
      cases inMethod
  | instructionOutsideMethod _ _ _ isLoose => exact wellNested.enclosed _ isLoose

theorem hasMethodLine_of_getElem? {line : Line} (isLine : lines[position]? = some line)
    (isBoundary : line.opens? ≠ none) : HasMethodLine lines :=
  ⟨line, List.mem_of_getElem? isLine, isBoundary⟩

private theorem hasMethodLine_of_isOpen (inMethod : isOpen lines position = true) :
    HasMethodLine lines := by
  unfold isOpen latest at inMethod
  cases isLatest : ((lines.take position).filterMap Line.opens?).getLast? with
  | none =>
      rw [isLatest] at inMethod
      cases inMethod
  | some opens =>
      rcases List.mem_filterMap.mp (List.mem_of_getLast? isLatest) with ⟨line, member, isOpens⟩
      exact ⟨line, List.mem_of_mem_take member, isOpens ▸ Option.some_ne_none opens⟩

theorem Misnested.hasMethodLine {error : Error} (misnested : Misnested lines error) :
    HasMethodLine lines := by
  cases misnested with
  | misplaced misplaced =>
      cases misplaced with
      | nestedMethod isStart => exact hasMethodLine_of_getElem? isStart nofun
      | endOutsideMethod isEnd => exact hasMethodLine_of_getElem? isEnd nofun
  | missingEnd _ inMethod => exact hasMethodLine_of_isOpen inMethod
  | instructionOutsideMethod _ _ hasMethodLine => exact hasMethodLine

end Faults

/-! ## The language of methods -/

open scoped Computability

/-- The lines that matter for the nesting. -/
inductive Mark where
  | start | code | finish
  deriving Repr, DecidableEq

def Line.mark? : Line -> Option Mark
  | .methodStart _ => some .start
  | .code _ => some .code
  | .methodEnd => some .finish
  | _ => none

/-- One method, with instructions in it and nothing else. -/
def methodForm : Language Mark :=
  {[.start]} * {[.code]}∗ * {[.finish]}

/-- What may stand behind a position, with a method open there or with none. -/
def restForm : Bool -> Language Mark
  | true => {[.code]}∗ * ({[.finish]} * methodForm∗)
  | false => methodForm∗

theorem methodForm_mul_kstar : methodForm * methodForm∗ = {[.start]} * restForm true := by
  have unfolded (form : Language Mark) :
      methodForm * form = {[.start]} * ({[.code]}∗ * ({[.finish]} * form)) := by
    rw [methodForm, mul_assoc, mul_assoc]
  rw [unfolded, restForm]

theorem restForm_false : restForm false = 1 + {[.start]} * restForm true := by
  rw [← methodForm_mul_kstar, Language.one_add_self_mul_kstar_eq_kstar, restForm]

theorem restForm_true :
    restForm true = {[.finish]} * restForm false + {[.code]} * restForm true := by
  calc
    restForm true = (1 + {[.code]} * {[.code]}∗) * ({[.finish]} * methodForm∗) := by
      rw [Language.one_add_self_mul_kstar_eq_kstar, restForm]
    _ = {[.finish]} * restForm false + {[.code]} * restForm true := by
      rw [add_mul, one_mul, mul_assoc, restForm, restForm]

theorem nil_notMem_singleton_mul (mark : Mark) (form : Language Mark) :
    [] ∉ ({[mark]} : Language Mark) * form := by
  rintro ⟨_, rfl, rest, _, isNil⟩
  cases isNil

theorem cons_mem_singleton_mul {mark other : Mark} {rest : List Mark} {form : Language Mark} :
    other :: rest ∈ ({[mark]} : Language Mark) * form <-> other = mark ∧ rest ∈ form := by
  constructor
  · rintro ⟨_, rfl, others, isRest, same⟩
    cases same
    exact ⟨rfl, isRest⟩
  · rintro ⟨rfl, isRest⟩
    exact ⟨[other], rfl, rest, isRest, rfl⟩

/-- What a mark makes of a method that is open or of none; some marks are out of
place there. -/
def Mark.step? : Mark -> Bool -> Option Bool
  | .start, false => some true
  | .code, true => some true
  | .finish, true => some false
  | _, _ => none

theorem nil_mem_restForm_iff {inMethod : Bool} : [] ∈ restForm inMethod <-> inMethod = false := by
  cases inMethod with
  | false => exact iff_of_true (Language.nil_mem_kstar methodForm) rfl
  | true =>
      rw [restForm_true, Language.mem_add]
      refine iff_of_false (not_or.mpr ⟨?_, ?_⟩) nofun
      · exact nil_notMem_singleton_mul .finish _
      · exact nil_notMem_singleton_mul .code _

theorem cons_mem_restForm_iff {mark : Mark} {rest : List Mark} {inMethod : Bool} :
    mark :: rest ∈ restForm inMethod <->
      Exists fun next => mark.step? inMethod = some next ∧ rest ∈ restForm next := by
  cases inMethod with
  | false =>
      rw [restForm_false, Language.mem_add, cons_mem_singleton_mul]
      cases mark <;> simp [Mark.step?]
  | true =>
      rw [restForm_true, Language.mem_add, cons_mem_singleton_mul, cons_mem_singleton_mul]
      cases mark <;> simp [Mark.step?]

/-! ## Positions and the language -/

/-- Nothing is wrong with the line at a position, if methods are read. -/
structure Placed (lines : List Line) (position : Nat) : Prop where
  placed : forall fault, ¬ Misplaced lines position fault
  enclosed : ¬ IsLoose lines position

/-- Nothing is wrong from a position on. -/
structure PlacedFrom (lines : List Line) (count : Nat) : Prop where
  placed : forall position, count ≤ position -> Placed lines position
  ended : isOpen lines lines.length = false

section Regular

variable {lines : List Line} {count : Nat} {line : Line}

private theorem placed_of_le (isBehind : lines.length ≤ count) : Placed lines count where
  placed := fun _ misplaced => Nat.not_lt_of_le isBehind misplaced.lt_length
  enclosed := fun isLoose => Nat.not_lt_of_le isBehind isLoose.lt_length

private theorem placedFrom_succ_iff :
    PlacedFrom lines count <-> Placed lines count ∧ PlacedFrom lines (count + 1) := by
  constructor
  · intro placedFrom
    exact ⟨placedFrom.placed count (Nat.le_refl count),
      fun position inRange => placedFrom.placed position (Nat.le_of_succ_le inRange),
      placedFrom.ended⟩
  · rintro ⟨placed, others⟩
    refine ⟨fun position inRange => ?_, others.ended⟩
    rcases Nat.eq_or_lt_of_le inRange with rfl | inRange
    · exact placed
    · exact others.placed position inRange

section Here

variable (isLine : lines[count]? = some line)
include isLine

theorem placed_of_line
    (starts : forall signature, line = .methodStart signature -> isOpen lines count = false)
    (ends : line = .methodEnd -> isOpen lines count = true)
    (codes : forall instruction, line = .code instruction -> isOpen lines count = true) :
    Placed lines count := by
  constructor
  · intro fault misplaced
    cases misplaced with
    | nestedMethod isStart inMethod =>
        rw [isLine] at isStart
        rw [starts _ (Option.some.inj isStart)] at inMethod
        cases inMethod
    | endOutsideMethod isEnd notInMethod =>
        rw [isLine] at isEnd
        rw [ends (Option.some.inj isEnd)] at notInMethod
        cases notInMethod
  · rintro ⟨⟨instruction, isCode⟩, notInMethod⟩
    rw [isLine] at isCode
    rw [codes instruction (Option.some.inj isCode)] at notInMethod
    cases notInMethod

private theorem placed_of_unmarked (unmarked : line.mark? = none) :
    Placed lines count ∧ isOpen lines (count + 1) = isOpen lines count := by
  rw [isOpen_succ isLine]
  cases line with
  | skip | classStart descriptor => exact ⟨placed_of_line isLine nofun nofun nofun, rfl⟩
  | methodStart signature | methodEnd | code instruction => cases unmarked

/-- A mark is in place where its line is. -/
theorem step?_eq_some_iff {mark : Mark} (isMark : line.mark? = some mark) {next : Bool} :
    mark.step? (isOpen lines count) = some next <->
      Placed lines count ∧ isOpen lines (count + 1) = next := by
  rw [isOpen_succ isLine]
  cases line with
  | skip | classStart descriptor => cases isMark
  | methodStart signature =>
      cases isMark
      cases inMethod : isOpen lines count with
      | true => exact iff_of_false nofun fun next => next.1.placed _ (.nestedMethod isLine inMethod)
      | false =>
          have placed := placed_of_line isLine (fun _ _ => inMethod) nofun nofun
          exact Option.some_inj.trans (and_iff_right placed).symm
  | methodEnd =>
      cases isMark
      cases inMethod : isOpen lines count with
      | true =>
          have placed := placed_of_line isLine nofun (fun _ => inMethod) nofun
          exact Option.some_inj.trans (and_iff_right placed).symm
      | false =>
          exact iff_of_false nofun fun next => next.1.placed _ (.endOutsideMethod isLine inMethod)
  | code instruction =>
      cases isMark
      cases inMethod : isOpen lines count with
      | true =>
          have placed := placed_of_line isLine nofun nofun (fun _ _ => inMethod)
          exact Option.some_inj.trans (and_iff_right placed).symm
      | false =>
          exact iff_of_false nofun fun next => next.1.enclosed ⟨⟨instruction, isLine⟩, inMethod⟩

end Here

/-- The language tells where something is wrong. -/
theorem mem_restForm_iff :
    (lines.drop count).filterMap Line.mark? ∈ restForm (isOpen lines count) <->
      PlacedFrom lines count := by
  generalize areRest : lines.drop count = rest
  induction rest generalizing count with
  | nil =>
      have isBehind : lines.length ≤ count := List.drop_eq_nil_iff.mp areRest
      have sameOpen : isOpen lines count = isOpen lines lines.length := by
        rw [isOpen, isOpen, List.take_of_length_le isBehind, List.take_length]
      rw [List.filterMap_nil, nil_mem_restForm_iff, sameOpen]
      constructor
      · exact fun ended => ⟨fun position inRange => placed_of_le (isBehind.trans inRange), ended⟩
      · exact fun placedFrom => placedFrom.ended
  | cons line rest inductionHypothesis =>
      rcases getElem?_of_drop_eq_cons areRest with ⟨isLine, areOthers⟩
      have others := inductionHypothesis areOthers
      rw [placedFrom_succ_iff, ← others]
      cases isMark : line.mark? with
      | none =>
          rcases placed_of_unmarked isLine isMark with ⟨placed, sameOpen⟩
          rw [List.filterMap_cons_none isMark, sameOpen]
          exact (and_iff_right placed).symm
      | some mark =>
          rw [List.filterMap_cons_some isMark, cons_mem_restForm_iff]
          simp only [step?_eq_some_iff isLine isMark]
          constructor
          · rintro ⟨next, ⟨placed, rfl⟩, inForm⟩
            exact ⟨placed, inForm⟩
          · rintro ⟨placed, inForm⟩
            exact ⟨_, ⟨placed, rfl⟩, inForm⟩

end Regular

private theorem wellNested_iff_placedFrom {lines : List Line} :
    WellNested lines <-> HasMethodLine lines ∧ PlacedFrom lines 0 := by
  constructor
  · rintro ⟨hasMethodLine, placed, ended, enclosed⟩
    exact ⟨hasMethodLine, fun position _ => ⟨placed position, enclosed position⟩, ended⟩
  · rintro ⟨hasMethodLine, placed, ended⟩
    exact ⟨hasMethodLine, fun position => (placed position (Nat.zero_le position)).placed, ended,
      fun position => (placed position (Nat.zero_le position)).enclosed⟩

/-- Lines are well-nested if their marks are those of one or more methods. -/
theorem wellNested_iff {lines : List Line} :
    WellNested lines <-> lines.filterMap Line.mark? ∈ methodForm * methodForm∗ := by
  have placedFrom : (lines.drop 0).filterMap Line.mark? ∈ restForm (isOpen lines 0) <->
      PlacedFrom lines 0 := mem_restForm_iff
  change lines.filterMap Line.mark? ∈ restForm false <-> _ at placedFrom
  rw [wellNested_iff_placedFrom, ← placedFrom, restForm_false, Language.mem_add,
    methodForm_mul_kstar]
  constructor
  · rintro ⟨⟨line, member, isBoundary⟩, isNil | inForm⟩
    · have unmarked := List.filterMap_eq_nil_iff.mp isNil line member
      cases line with
      | methodStart signature | methodEnd => cases unmarked
      | skip | classStart descriptor | code instruction => exact (isBoundary rfl).elim
    · exact inForm
  · intro inForm
    refine ⟨?_, .inr inForm⟩
    rcases inForm with ⟨_, rfl, rest, _, areMarks⟩
    have isStart : Mark.start ∈ lines.filterMap Line.mark? := areMarks ▸ List.mem_cons_self
    rcases List.mem_filterMap.mp isStart with ⟨line, member, isMark⟩
    refine ⟨line, member, ?_⟩
    cases line with
    | methodStart signature => exact nofun
    | skip | classStart descriptor | methodEnd | code instruction => cases isMark

end Listing
end DalvikFold
