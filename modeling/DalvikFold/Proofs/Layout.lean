import Mathlib.Data.List.Forall2
import Mathlib.Logic.Relation
import DalvikFold.Listing.Methods
import DalvikFold.Proofs.InstructionLines

namespace DalvikFold
namespace Listing

/-!
# Layout

A line may be laid out in many ways.  It may be indented, and have a comment
behind it; any blanks may stand between the mnemonic and the operands, and on
either side of the commas between operands.  None of this changes what the line
says, be it an instruction, a line of another kind or a fault.

A string literal is no part of the layout.  The number signs and commas in it
are characters of the string, and the quotes and backslashes behind a backslash
do not end it.
-/

/-! ## Comments -/

/-- A number sign that stands outside of string literals starts a comment. -/
def HasComment (line : List Char) : Prop :=
  Exists fun before => Exists fun comment =>
    line = before ++ '#' :: comment ∧ Quotation.outside.after before = .outside

/-- The line does not end in a string literal that is still open. -/
def EndsOutside (line : List Char) : Prop :=
  Quotation.outside.after line = .outside

theorem stripCommentFrom_of_noComment {state : Quotation} {line : List Char}
    (noComment : forall before comment, line = before ++ '#' :: comment ->
      state.after before ≠ .outside) : stripCommentFrom state line = line := by
  induction line generalizing state with
  | nil => rfl
  | cons c line inductionHypothesis =>
      have notSign : ¬ (c = '#' ∧ state = .outside) := by
        rintro ⟨isSign, isOutside⟩
        exact noComment [] line (congrArg (· :: line) isSign) isOutside
      rw [stripCommentFrom, if_neg notSign]
      apply congrArg (c :: ·)
      apply inductionHypothesis
      intro before comment isLine
      exact noComment (c :: before) comment (congrArg (c :: ·) isLine)

theorem stripComment_eq_iff {line : List Char} :
    stripComment line = line <-> ¬ HasComment line := by
  constructor
  · rintro unchanged ⟨before, comment, isLine, isOutside⟩
    rw [isLine] at unchanged
    have beforeUnchanged : stripComment before = before := stripCommentFrom_of_append unchanged
    have cut : stripComment (before ++ '#' :: comment) = before ++ [] := by
      rw [stripComment, stripCommentFrom_append beforeUnchanged, isOutside]
      rfl
    rw [cut] at unchanged
    cases List.append_cancel_left unchanged
  · intro noComment
    apply stripCommentFrom_of_noComment
    intro before comment isLine isOutside
    exact noComment ⟨before, comment, isLine, isOutside⟩

/-- A line says the same with blanks around it and a comment behind it. -/
theorem ofText_comment {line indent space : List Char} (indentBlank : Text.Blank indent)
    (spaceBlank : Text.Blank space) (outside : HasComment line ∨ EndsOutside line)
    (comment : List Char) :
    Line.ofText (indent ++ (line ++ (space ++ '#' :: comment))) = Line.ofText line := by
  have pastIndent := (Closed.of_blank indentBlank).stripComment_append
    (line ++ (space ++ '#' :: comment))
  rw [Line.ofText, Line.ofText, pastIndent, Text.trim_blank_append indentBlank]
  by_cases unchanged : stripComment line = line
  · -- The line has no comment of its own, so the new one starts behind it.
    have endsOutside : EndsOutside line :=
      outside.resolve_left (stripComment_eq_iff.mp unchanged)
    have cut : stripComment (space ++ '#' :: comment) = space ++ [] :=
      (Closed.of_blank spaceBlank).stripComment_append ('#' :: comment)
    have pastLine : stripComment (line ++ (space ++ '#' :: comment)) = line ++ space := by
      rw [stripComment, stripCommentFrom_append unchanged, endsOutside]
      exact congrArg (line ++ ·) (cut.trans (List.append_nil space))
    rw [pastLine, Text.trim_append_blank spaceBlank, unchanged]
  · -- The comment of the line hides the new one.
    have hidden : stripComment (line ++ (space ++ '#' :: comment)) = stripComment line :=
      stripCommentFrom_append_of_comment unchanged _
    rw [hidden]

/-! ## Blanks -/

/-- The front of an instruction line: blanks, a word and more blanks. -/
structure InstructionFront where
  indent : List Char
  word : List Char
  gap : List Char
  indentBlank : Text.Blank indent
  isWord : IsInstructionWord word
  gapBlank : Text.Blank gap
  gapNonempty : gap ≠ []

def InstructionFront.line (front : InstructionFront) (part : List Char) : List Char :=
  front.indent ++ (front.word ++ (front.gap ++ part))

theorem InstructionFront.ofText_line (front : InstructionFront) (part : List Char) :
    Line.ofText (front.line part) = Line.ofInstruction front.word (stripComment part) :=
  front.isWord.ofText_append front.indentBlank front.gapBlank front.gapNonempty part

/-- Behind blanks the scans are outside of quotes only if they were so before. -/
theorem ScanState.eq_of_after_blank {state : ScanState} {blanks : List Char}
    (blankness : Text.Blank blanks) (isOutside : (state.after blanks).quotation = .outside) :
    state.after blanks = state := by
  induction blanks generalizing state with
  | nil => rfl
  | cons blank blanks inductionHypothesis =>
      have ofRest : (state.step blank).after blanks = state.step blank :=
        inductionHypothesis (fun c member => blankness c (List.mem_cons_of_mem blank member))
          isOutside
      change (state.step blank).after blanks = state
      rcases state.step_of_isBlank (blankness blank List.mem_cons_self) with stays | inQuotes
      · rw [ofRest, stays]
      · change ((state.step blank).after blanks).quotation = .outside at isOutside
        rw [ofRest] at isOutside
        exact absurd isOutside inQuotes.2

private theorem Separates.of_append_blank {left blanks : List Char} (blankness : Text.Blank blanks)
    (separates : Separates (left ++ blanks)) : Separates left := by
  unfold Separates at separates ⊢
  rw [ScanState.after_append] at separates
  have same := ScanState.eq_of_after_blank blankness (congrArg ScanState.quotation separates)
  exact same.symm.trans separates

/-- A comma that separates, with blanks around it, splits what is read of a text. -/
theorem trimmedSegments_comma {left before behind : List Char} (separates : Separates left)
    (uncommented : stripComment left = left) (beforeBlank : Text.Blank before)
    (behindBlank : Text.Blank behind) (right : List Char) :
    trimmedSegments (stripComment (left ++ (before ++ ',' :: (behind ++ right)))) =
      trimmedSegments left ++ trimmedSegments (stripComment right) := by
  have isOutside : Quotation.outside.after left = .outside := by
    have atStart := congrArg ScanState.quotation separates
    rwa [ScanState.quotation_after] at atStart
  have pastBehind := (Closed.of_blank behindBlank).stripComment_append right
  have pastComma : stripComment (',' :: (behind ++ right)) =
      ',' :: stripComment (behind ++ right) :=
    rfl
  have pastBefore := (Closed.of_blank beforeBlank).stripComment_append (',' :: (behind ++ right))
  have stripped : stripComment (left ++ (before ++ ',' :: (behind ++ right))) =
      (left ++ before) ++ ',' :: (behind ++ stripComment right) := by
    rw [stripComment, stripCommentFrom_append uncommented, isOutside]
    change left ++ stripComment (before ++ ',' :: (behind ++ right)) = _
    rw [pastBefore, pastComma, pastBehind, List.append_assoc]
  rw [stripped, (separates.append_blank beforeBlank).trimmedSegments_append,
    trimmedSegments_append_blank beforeBlank, trimmedSegments_blank_append behindBlank]

/-- One change to the layout of a line. -/
inductive Relaid : List Char -> List Char -> Prop where
  /-- Blanks around the line, and a comment behind it. -/
  | comment {line indent space : List Char} (indentBlank : Text.Blank indent)
      (spaceBlank : Text.Blank space) (outside : HasComment line ∨ EndsOutside line)
      (comment : List Char) : Relaid line (indent ++ (line ++ (space ++ '#' :: comment)))
  /-- Other blanks in front of a mnemonic and between it and the operand part. -/
  | front (front other : InstructionFront) (sameWord : front.word = other.word)
      (part : List Char) : Relaid (front.line part) (other.line part)
  /-- Other blanks on either side of a comma that separates operands. -/
  | comma (front : InstructionFront) {left before behind otherBefore otherBehind : List Char}
      (beforeBlank : Text.Blank before) (behindBlank : Text.Blank behind)
      (otherBeforeBlank : Text.Blank otherBefore) (otherBehindBlank : Text.Blank otherBehind)
      (noComment : ¬ HasComment left) (separates : Separates (left ++ before))
      (right : List Char) :
      Relaid (front.line (left ++ (before ++ ',' :: (behind ++ right))))
        (front.line (left ++ (otherBefore ++ ',' :: (otherBehind ++ right))))

theorem Relaid.ofText_eq {first second : List Char} (relaid : Relaid first second) :
    Line.ofText first = Line.ofText second := by
  cases relaid with
  | comment indentBlank spaceBlank outside comment =>
      exact (ofText_comment indentBlank spaceBlank outside comment).symm
  | front front other sameWord part =>
      rw [front.ofText_line, other.ofText_line, sameWord]
  | comma front beforeBlank behindBlank otherBeforeBlank otherBehindBlank noComment separates
      right =>
      have separates := separates.of_append_blank beforeBlank
      have uncommented := stripComment_eq_iff.mpr noComment
      rw [front.ofText_line, front.ofText_line]
      apply Line.ofInstruction_congr
      apply segments_congr
      rw [trimmedSegments_comma separates uncommented beforeBlank behindBlank,
        trimmedSegments_comma separates uncommented otherBeforeBlank otherBehindBlank]

/-! ## Listings -/

section Listings

variable {first second : List (List Char)}
  (same : List.Forall₂ (fun text other => Line.ofText text = Line.ofText other) first second)
include same

/-- What is read of a listing is settled by what its lines say. -/
theorem instructionsFrom_congr (number : Nat) :
    instructionsFrom number first = instructionsFrom number second := by
  induction same generalizing number with
  | nil => rfl
  | cons sameLine _ inductionHypothesis =>
      rw [instructionsFrom, instructionsFrom, sameLine, inductionHypothesis]

private theorem acceptFrom_congr (progress : Progress) (number : Nat) :
    acceptFrom progress number first = acceptFrom progress number second := by
  induction same generalizing progress number with
  | nil => rfl
  | @cons text other first second sameLine _ inductionHypothesis =>
      rw [acceptFrom, acceptFrom, sameLine]
      cases (Line.ofText other).bind (progress.accept number) with
      | error fault => rfl
      | ok progress => exact inductionHypothesis progress (number + 1)

end Listings

/-- Listings whose lines say the same are read alike, with their faults at the
same lines. -/
theorem listings_congr {first second : String}
    (same : List.Forall₂ (fun text other => Line.ofText text = Line.ofText other)
      (Text.lines first.toList) (Text.lines second.toList)) :
    instructions first = instructions second ∧ methods first = methods second := by
  constructor
  · exact instructionsFrom_congr same 1
  · unfold methods
    dsimp only
    rw [acceptFrom_congr same, same.length_eq]

/-! ## Strings -/

/-- The quote and what is written of its literal stay together: the line keeps
them in front of its comment, and one segment holds all of them. -/
structure KeepsTogether (before body rest : List Char) : Prop where
  inLine : Exists fun left =>
    stripComment (before ++ '"' :: (body ++ rest)) = before ++ '"' :: (body ++ left)
  inSegment : Exists fun front => Exists fun last => Exists fun first => Exists fun others =>
    segmentsFrom .outside 0 before = front ++ [last] ∧
      segmentsFrom .outside 0 (before ++ '"' :: (body ++ rest)) =
        front ++ (last ++ '"' :: (body ++ first)) :: others

private theorem Quoted.keepsTogether {before body : List Char} (quoted : Quoted body)
    (noComment : ¬ HasComment before) (isOutside : EndsOutside before) (rest : List Char) :
    KeepsTogether before body rest where
  inLine := by
    refine ⟨stripCommentFrom .inside rest, ?_⟩
    have pastBefore := stripCommentFrom_append (stripComment_eq_iff.mpr noComment)
      ('"' :: (body ++ rest))
    have pastBody := (quoted.passage 0).stripCommentFrom_append rest
    rw [stripComment, pastBefore, isOutside]
    exact congrArg (fun text => before ++ '"' :: text) pastBody
  inSegment := by
    rcases exists_segmentsFrom_append .start before ('"' :: (body ++ rest)) with
      ⟨front, last, first, others, ofBefore, ofRest, ofWhole⟩
    have atQuote : (ScanState.start.after before).quotation = .outside := by
      rw [ScanState.quotation_after]
      exact isOutside
    have onLiteral := quoted.passage_cons atQuote
    rcases exists_segmentsFrom_eq_cons .inside (ScanState.start.after before).depth rest with
      ⟨next, more, ofTail⟩
    have ofLiteral := onLiteral.segmentsFrom_append ofTail
    rcases List.cons.inj (ofLiteral.symm.trans ofRest) with ⟨isFirst, areOthers⟩
    rw [← isFirst] at ofWhole
    exact ⟨front, last, next, others, ofBefore, ofWhole⟩

/-! ## Lines of one meaning -/

/-- The lines differ in their layout only. -/
def SameButLayout : List Char -> List Char -> Prop :=
  Relation.EqvGen Relaid

theorem SameButLayout.ofText_eq {first second : List Char} (same : SameButLayout first second) :
    Line.ofText first = Line.ofText second := by
  induction same with
  | rel first second relaid => exact relaid.ofText_eq
  | refl line => rfl
  | symm first second _ inductionHypothesis => exact inductionHypothesis.symm
  | trans first second third _ _ toSecond toThird => exact toSecond.trans toThird

/-- Lines that differ in their layout say the same, and listings of such lines
are read alike.  Nothing inside of a string literal is layout. -/
theorem layout_sameMeaning :
    (forall first second, SameButLayout first second ->
      Line.ofText first = Line.ofText second) ∧
    (forall first second : String,
      List.Forall₂ SameButLayout (Text.lines first.toList) (Text.lines second.toList) ->
        instructions first = instructions second ∧ methods first = methods second) ∧
    (forall before body, Quoted body -> ¬ HasComment before -> EndsOutside before ->
      forall rest, KeepsTogether before body rest) := by
  refine ⟨fun first second => SameButLayout.ofText_eq, ?_, ?_⟩
  · intro first second same
    exact listings_congr (same.imp (fun _ _ => SameButLayout.ofText_eq))
  · intro before body quoted noComment isOutside rest
    exact quoted.keepsTogether noComment isOutside rest

/-- The word of the lines below. -/
def loadsString : List Char :=
  ['c', 'o', 'n', 's', 't', '-', 's', 't', 'r', 'i', 'n', 'g']

/-- A string of a quote, a comma and a number sign. -/
def threeMarks : List Char :=
  ['\\', '"', ',', '#']

theorem isWord_loadsString : IsWord loadsString :=
  .of_all (by decide) (by decide)

theorem isInstructionWord_loadsString : IsInstructionWord loadsString where
  nonempty := isWord_loadsString.nonempty
  unbroken := isWord_loadsString.unbroken
  uncommented := by decide
  unmarked := by
    intro c isFirst
    cases isFirst
    decide

/-- A line with no more blanks than it needs. -/
def tightLine : List Char :=
  loadsString ++ ' ' :: 'v' :: '0' :: ',' :: '"' :: (threeMarks ++ ['"'])

/-- The same line with blanks and a comment. -/
def looseLine : List Char :=
  ' ' :: (loadsString ++ '\t' :: 'v' :: '0' :: ' ' :: ',' :: ' ' :: '"' ::
    (threeMarks ++ ['"', ' ', '#', '"']))

theorem sameButLayout_tightLine : SameButLayout tightLine looseLine := by
  have space : Text.Blank [' '] := .singleton (by decide)
  have tab : Text.Blank ['\t'] := .singleton (by decide)
  let tight : InstructionFront :=
    ⟨[], loadsString, [' '], .nil, isInstructionWord_loadsString, space, by decide⟩
  let loose : InstructionFront :=
    ⟨[' '], loadsString, ['\t'], space, isInstructionWord_loadsString, tab, by decide⟩
  have noComment : ¬ HasComment ['v', '0'] := stripComment_eq_iff.mp (by decide)
  have otherFront := Relaid.front tight loose rfl
    ('v' :: '0' :: ',' :: '"' :: (threeMarks ++ ['"']))
  have otherBlanks := Relaid.comma loose .nil .nil space space noComment (by rfl)
    ('"' :: (threeMarks ++ ['"']))
  have endsOutside : EndsOutside (loose.line ('v' :: '0' :: ' ' :: ',' :: ' ' :: '"' ::
      (threeMarks ++ ['"']))) := rfl
  have commented := Relaid.comment .nil space (.inr endsOutside) ['"']
  exact .trans _ _ _ (.rel _ _ otherFront)
    (.trans _ _ _ (.rel _ _ otherBlanks) (.rel _ _ commented))

theorem layout_sameMeaning_tightAndLoose :
    Line.ofText tightLine = Line.ofText looseLine ∧
      instructions (String.ofList tightLine) = instructions (String.ofList looseLine) ∧
      KeepsTogether (loadsString ++ [' ', 'v', '0', ',']) threeMarks ['"'] := by
  have sameLines : List.Forall₂ SameButLayout (Text.lines (String.ofList tightLine).toList)
      (Text.lines (String.ofList looseLine).toList) := by
    have tightLines : Text.lines tightLine = [tightLine] := by decide
    have looseLines : Text.lines looseLine = [looseLine] := by decide
    rw [String.toList_ofList, String.toList_ofList, tightLines, looseLines]
    exact .cons sameButLayout_tightLine .nil
  have quoted : Quoted threeMarks :=
    .escape '"' (.itself (by decide) (by decide) (.itself (by decide) (by decide) .nil))
  have noComment : ¬ HasComment (loadsString ++ [' ', 'v', '0', ',']) :=
    stripComment_eq_iff.mp (by decide)
  rcases layout_sameMeaning with ⟨ofLines, ofListings, ofStrings⟩
  exact ⟨ofLines _ _ sameButLayout_tightLine, (ofListings _ _ sameLines).1,
    ofStrings _ _ quoted noComment (by rfl) _⟩

end Listing

end DalvikFold
