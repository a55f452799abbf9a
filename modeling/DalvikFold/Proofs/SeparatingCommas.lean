import DalvikFold.Proofs.Passages

namespace DalvikFold

/-!
# Commas that separate

The scan for commas is in one state after each text, whatever follows it.  A
comma separates operands if it stands behind a text that leaves the scan at the
start, outside of quotes and of brackets, and everything about segments follows
from one equation: at such a comma, the segments of a text are those of its left
part and then those of its right part.

Blanks at the ends of a segment are trimmed.  So the blanks around a text, and
those on either side of a comma that separates, leave its operands as they are.
-/

namespace Text

/-! ## Blank texts -/

def Blank (text : List Char) : Prop :=
  forall c, c ∈ text -> isBlank c = true

theorem Blank.nil : Blank [] :=
  fun _ member => nomatch member

theorem Blank.singleton {blank : Char} (blankness : isBlank blank = true) : Blank [blank] :=
  fun _ member => List.mem_singleton.mp member ▸ blankness

section Blanks

variable {blanks : List Char} (blankness : Blank blanks)
include blankness

theorem Blank.notMem {c : Char} (notBlank : isBlank c = false) : c ∉ blanks := by
  intro member
  rw [blankness c member] at notBlank
  cases notBlank

theorem trim_blank_append (text : List Char) : trim (blanks ++ text) = trim text := by
  rw [trim, trimLeft, List.dropWhile_append_of_pos blankness, ← trimLeft, ← trim]

private theorem trimRight_append_blank (text : List Char) :
    trimRight (text ++ blanks) = trimRight text := by
  have reversed : forall c, c ∈ blanks.reverse -> isBlank c = true :=
    fun c member => blankness c (List.mem_reverse.mp member)
  rw [trimRight, List.reverse_append, List.dropWhile_append_of_pos reversed, ← trimRight]

theorem trim_append_blank (text : List Char) : trim (text ++ blanks) = trim text := by
  rw [trim, trim, trimLeft, List.dropWhile_append, ← trimLeft]
  by_cases isEmpty : (trimLeft text).isEmpty = true
  · rw [if_pos isEmpty]
    have noneLeft : (blanks ++ []).dropWhile isBlank = [] :=
      List.dropWhile_append_of_pos blankness
    rw [List.append_nil] at noneLeft
    rw [noneLeft, List.isEmpty_iff.mp isEmpty]
  · rw [if_neg isEmpty]
    exact trimRight_append_blank blankness (trimLeft text)

theorem trim_eq_nil_of_blank : trim blanks = [] := by
  have trimmed := trim_append_blank blankness []
  rwa [List.nil_append] at trimmed

end Blanks

end Text

namespace Listing

/-! ## The state after a text -/

/-- Where a scan stands after a text, with respect to quotes. -/
def Quotation.after (state : Quotation) (text : List Char) : Quotation :=
  text.foldl Quotation.step state

namespace ScanState

/-- Where the scans stand after a text. -/
def after (state : ScanState) (text : List Char) : ScanState :=
  text.foldl ScanState.step state

theorem after_append (state : ScanState) (first second : List Char) :
    state.after (first ++ second) = (state.after first).after second :=
  List.foldl_append

theorem quotation_after (state : ScanState) (text : List Char) :
    (state.after text).quotation = state.quotation.after text := by
  induction text generalizing state with
  | nil => rfl
  | cons c text inductionHypothesis => exact inductionHypothesis (state.step c)

/-- Outside of quotes, plain characters change nothing. -/
theorem after_of_plain {state : ScanState} (isOutside : state.quotation = .outside)
    {text : List Char} (plain : forall c, c ∈ text -> isSpecial c = false) :
    state.after text = state := by
  induction text with
  | nil => rfl
  | cons c text inductionHypothesis =>
      change (state.step c).after text = state
      rw [step_of_plain (plain c List.mem_cons_self) isOutside]
      exact inductionHypothesis (fun other member => plain other (List.mem_cons_of_mem c member))

theorem after_of_blank {state : ScanState} (isOutside : state.quotation = .outside)
    {blanks : List Char} (blankness : Text.Blank blanks) : state.after blanks = state :=
  after_of_plain isOutside (fun c member => isSpecial_of_isBlank (blankness c member))

end ScanState

theorem Closed.of_blank {blanks : List Char} (blankness : Text.Blank blanks) : Closed blanks :=
  .of_plain (fun c member => isSpecial_of_isBlank (blankness c member))

theorem Passage.after_eq {state after : ScanState} {text : List Char}
    (passage : Passage state text after) : state.after text = after := by
  induction passage with
  | nil => rfl
  | cons _ _ _ inductionHypothesis => exact inductionHypothesis

/-! ## Comments -/

/-- If a text has no comment, the comment of a longer text is in what follows. -/
theorem stripCommentFrom_append {state : Quotation} {text : List Char}
    (noComment : stripCommentFrom state text = text) (rest : List Char) :
    stripCommentFrom state (text ++ rest) = text ++ stripCommentFrom (state.after text) rest := by
  induction text generalizing state with
  | nil => rfl
  | cons c text inductionHypothesis =>
      rw [stripCommentFrom] at noComment
      by_cases isSign : c = '#' ∧ state = .outside
      · rw [if_pos isSign] at noComment
        cases noComment
      · rw [if_neg isSign] at noComment
        rw [List.cons_append, stripCommentFrom, if_neg isSign,
          inductionHypothesis (List.cons.inj noComment).2]
        rfl

/-- The first comment of a text hides whatever follows it. -/
theorem stripCommentFrom_append_of_comment {state : Quotation} {text : List Char}
    (hasComment : stripCommentFrom state text ≠ text) (rest : List Char) :
    stripCommentFrom state (text ++ rest) = stripCommentFrom state text := by
  induction text generalizing state with
  | nil => exact absurd rfl hasComment
  | cons c text inductionHypothesis =>
      rw [List.cons_append, stripCommentFrom, stripCommentFrom]
      by_cases isSign : c = '#' ∧ state = .outside
      · rw [if_pos isSign, if_pos isSign]
      · rw [if_neg isSign, if_neg isSign]
        rw [stripCommentFrom, if_neg isSign] at hasComment
        rw [inductionHypothesis (fun same => hasComment (congrArg _ same))]

/-! ## Segments -/

theorem segmentsFrom_ne_nil (state : Quotation) (depth : Nat) (text : List Char) :
    segmentsFrom state depth text ≠ [] := by
  cases text with
  | nil => exact List.cons_ne_nil _ _
  | cons c text =>
      rw [segmentsFrom]
      split
      · exact List.cons_ne_nil _ _
      · dsimp only
        split <;> exact List.cons_ne_nil _ _

theorem exists_segmentsFrom_eq_cons (state : Quotation) (depth : Nat) (text : List Char) :
    Exists fun first => Exists fun others =>
      segmentsFrom state depth text = first :: others :=
  List.exists_cons_of_ne_nil (segmentsFrom_ne_nil state depth text)

/-- The last segment of a text goes on in the first segment of what follows it. -/
theorem exists_segmentsFrom_append (state : ScanState) (text rest : List Char) :
    Exists fun front => Exists fun last => Exists fun first => Exists fun others =>
      segmentsFrom state.quotation state.depth text = front ++ [last] ∧
        segmentsFrom (state.after text).quotation (state.after text).depth rest =
          first :: others ∧
        segmentsFrom state.quotation state.depth (text ++ rest) =
          front ++ (last ++ first) :: others := by
  induction text generalizing state with
  | nil =>
      rcases exists_segmentsFrom_eq_cons state.quotation state.depth rest with
        ⟨first, others, areSegments⟩
      exact ⟨[], [], first, others, rfl, areSegments, areSegments⟩
  | cons c text inductionHypothesis =>
      rcases inductionHypothesis (state.step c) with
        ⟨front, last, first, others, ofText, ofRest, ofWhole⟩
      by_cases isComma : c = ',' ∧ state.quotation = .outside ∧ state.depth = 0
      · rcases state with ⟨quotation, depth⟩
        rcases isComma with ⟨isComma, isOutside, isZero⟩
        subst isComma isOutside isZero
        exact ⟨[] :: front, last, first, others, congrArg _ ofText, ofRest, congrArg _ ofWhole⟩
      · cases front with
        | nil =>
            exact ⟨[], c :: last, first, others, segmentsFrom_cons isComma ofText, ofRest,
              segmentsFrom_cons isComma ofWhole⟩
        | cons next front =>
            exact ⟨(c :: next) :: front, last, first, others, segmentsFrom_cons isComma ofText,
              ofRest, segmentsFrom_cons isComma ofWhole⟩

/-- A comma behind this text separates operands. -/
def Separates (text : List Char) : Prop :=
  ScanState.start.after text = .start

namespace Separates

variable {text other : List Char} (separates : Separates text)
include separates

theorem append_blank {blanks : List Char} (blankness : Text.Blank blanks) :
    Separates (text ++ blanks) := by
  unfold Separates at separates ⊢
  rw [ScanState.after_append, separates]
  exact ScanState.after_of_blank rfl blankness

theorem blank_append {blanks : List Char} (blankness : Text.Blank blanks) :
    Separates (blanks ++ text) := by
  unfold Separates at separates ⊢
  rw [ScanState.after_append, ScanState.after_of_blank rfl blankness, separates]

theorem append_comma (separatesOther : Separates other) : Separates (text ++ ',' :: other) := by
  unfold Separates at separates separatesOther ⊢
  rw [ScanState.after_append, separates]
  exact separatesOther

end Separates

/-- **Segments split at a comma that separates.** -/
theorem Separates.segmentsFrom_append {left : List Char} (separates : Separates left)
    (right : List Char) :
    segmentsFrom .outside 0 (left ++ ',' :: right) =
      segmentsFrom .outside 0 left ++ segmentsFrom .outside 0 right := by
  rcases exists_segmentsFrom_append .start left (',' :: right) with
    ⟨front, last, first, others, ofLeft, ofRight, ofWhole⟩
  rw [separates] at ofRight
  have atComma : segmentsFrom .outside 0 (',' :: right) = [] :: segmentsFrom .outside 0 right := rfl
  rcases List.cons.inj (atComma.symm.trans ofRight) with ⟨isFirst, areOthers⟩
  change segmentsFrom .outside 0 left = front ++ [last] at ofLeft
  change segmentsFrom .outside 0 (left ++ ',' :: right) = _ at ofWhole
  rw [ofWhole, ofLeft, ← isFirst, ← areOthers, List.append_nil, List.append_assoc]
  rfl

theorem segmentsFrom_of_noComma (state : ScanState) {text : List Char} (noComma : ',' ∉ text) :
    segmentsFrom state.quotation state.depth text = [text] := by
  induction text generalizing state with
  | nil => rfl
  | cons c text inductionHypothesis =>
      rw [List.mem_cons, not_or] at noComma
      exact segmentsFrom_cons (fun isComma => noComma.1 isComma.1.symm)
        (inductionHypothesis (state.step c) noComma.2)

/-! ## Segments as a relation -/

/-- No comma of the text separates operands. -/
def Unseparated (text : List Char) : Prop :=
  forall left right, text = left ++ ',' :: right -> ¬ Separates left

/-- The texts between the commas that separate, the one in front of the first
comma and the one behind the last comma included. -/
inductive CutAtCommas : List Char -> List (List Char) -> Prop where
  | last {text : List Char} (unseparated : Unseparated text) : CutAtCommas text [text]
  | comma {first rest : List Char} {others : List (List Char)} (unseparated : Unseparated first)
      (separates : Separates first) (cut : CutAtCommas rest others) :
      CutAtCommas (first ++ ',' :: rest) (first :: others)

theorem segmentsFrom_of_unseparated (state : ScanState) {text : List Char}
    (unseparated : forall left right, text = left ++ ',' :: right -> state.after left ≠ .start) :
    segmentsFrom state.quotation state.depth text = [text] := by
  induction text generalizing state with
  | nil => rfl
  | cons c text inductionHypothesis =>
      have notComma : ¬ (c = ',' ∧ state.quotation = .outside ∧ state.depth = 0) := by
        rintro ⟨isComma, isOutside, isZero⟩
        rcases state with ⟨quotation, depth⟩
        subst isComma isOutside isZero
        exact unseparated [] text rfl rfl
      apply segmentsFrom_cons notComma
      apply inductionHypothesis
      intro left right isText
      exact unseparated (c :: left) right (congrArg (c :: ·) isText)

theorem CutAtCommas.segmentsFrom_eq {text : List Char} {segments : List (List Char)}
    (cut : CutAtCommas text segments) : segmentsFrom .outside 0 text = segments := by
  induction cut with
  | last unseparated => exact segmentsFrom_of_unseparated .start unseparated
  | @comma first rest others unseparated separates _ inductionHypothesis =>
      have single : segmentsFrom .outside 0 first = [first] :=
        segmentsFrom_of_unseparated .start unseparated
      rw [separates.segmentsFrom_append, single, inductionHypothesis]
      rfl

theorem exists_comma_of_not_unseparated {text : List Char} (separated : ¬ Unseparated text) :
    Exists fun left => Exists fun right => text = left ++ ',' :: right ∧ Separates left := by
  apply Classical.byContradiction
  intro noComma
  exact separated (fun left right isText separates => noComma ⟨left, right, isText, separates⟩)

/-- Of the commas that separate, one is the first. -/
theorem exists_first_comma {text left right : List Char} (isText : text = left ++ ',' :: right)
    (separates : Separates left) :
    Exists fun first => Exists fun rest => text = first ++ ',' :: rest ∧ Separates first ∧
      Unseparated first := by
  induction isLength : left.length using Nat.strongRecOn generalizing left right with
  | ind length inductionHypothesis =>
      by_cases unseparated : Unseparated left
      · exact ⟨left, right, isText, separates, unseparated⟩
      · rcases exists_comma_of_not_unseparated unseparated with
          ⟨before, between, isLeft, separatesToo⟩
        have shorter : before.length < length := by
          rw [← isLength, isLeft, List.length_append, List.length_cons]
          omega
        subst isLeft
        rw [List.append_assoc] at isText
        exact inductionHypothesis before.length shorter isText separatesToo rfl

/-- Every text can be cut. -/
theorem cutAtCommas_segmentsFrom (text : List Char) :
    CutAtCommas text (segmentsFrom .outside 0 text) := by
  induction isLength : text.length using Nat.strongRecOn generalizing text with
  | ind length inductionHypothesis =>
      by_cases unseparated : Unseparated text
      · have cut := CutAtCommas.last unseparated
        rwa [cut.segmentsFrom_eq]
      · rcases exists_comma_of_not_unseparated unseparated with
          ⟨left, right, isText, separatesLeft⟩
        rcases exists_first_comma isText separatesLeft with
          ⟨first, rest, isText, separates, unseparated⟩
        have shorter : rest.length < length := by
          rw [← isLength, isText, List.length_append, List.length_cons]
          omega
        have cut := CutAtCommas.comma unseparated separates
          (inductionHypothesis rest.length shorter rest rfl)
        rw [isText, cut.segmentsFrom_eq]
        exact cut

/-- The scan for commas finds the cuts. -/
theorem cutAtCommas_iff {text : List Char} {segments : List (List Char)} :
    CutAtCommas text segments <-> segmentsFrom .outside 0 text = segments := by
  constructor
  · exact CutAtCommas.segmentsFrom_eq
  · intro areSegments
    exact areSegments ▸ cutAtCommas_segmentsFrom text

/-! ## Blanks around segments -/

def trimmedSegments (text : List Char) : List (List Char) :=
  (segmentsFrom .outside 0 text).map Text.trim

theorem segments_eq (text : List Char) :
    segments text = if (trimmedSegments text).getLast? = some [] then
      (trimmedSegments text).dropLast else trimmedSegments text :=
  rfl

theorem segments_congr {first second : List Char}
    (same : trimmedSegments first = trimmedSegments second) : segments first = segments second := by
  rw [segments_eq, segments_eq, same]

theorem Separates.trimmedSegments_append {left : List Char} (separates : Separates left)
    (right : List Char) :
    trimmedSegments (left ++ ',' :: right) = trimmedSegments left ++ trimmedSegments right := by
  rw [trimmedSegments, separates.segmentsFrom_append, List.map_append]
  rfl

theorem trimmedSegments_ne_nil (text : List Char) : trimmedSegments text ≠ [] :=
  fun isNil => segmentsFrom_ne_nil .outside 0 text (List.map_eq_nil_iff.mp isNil)

/-- Behind a comma that separates, the operands are those of what follows it. -/
theorem Separates.segments_append {left : List Char} (separates : Separates left)
    (right : List Char) :
    segments (left ++ ',' :: right) = trimmedSegments left ++ segments right := by
  have nonempty := trimmedSegments_ne_nil right
  rw [segments_eq, segments_eq, separates.trimmedSegments_append, List.getLast?_append,
    List.getLast?_eq_some_getLast nonempty, Option.some_or]
  split
  · exact List.dropLast_append_of_ne_nil nonempty
  · rfl

section Blanks

variable {blanks : List Char} (blankness : Text.Blank blanks)
include blankness

theorem trimmedSegments_blank_append (text : List Char) :
    trimmedSegments (blanks ++ text) = trimmedSegments text := by
  rcases exists_segmentsFrom_append .start blanks text with
    ⟨front, last, first, others, ofBlanks, ofText, ofWhole⟩
  have isSingle := segmentsFrom_of_noComma .start (blankness.notMem (c := ',') (by decide))
  rcases List.append_eq_singleton_iff.mp (ofBlanks.symm.trans isSingle) with
    ⟨noFront, isLast⟩ | ⟨_, impossible⟩
  · rw [ScanState.after_of_blank rfl blankness] at ofText
    change segmentsFrom .outside 0 text = first :: others at ofText
    change segmentsFrom .outside 0 (blanks ++ text) = _ at ofWhole
    rw [trimmedSegments, trimmedSegments, ofWhole, ofText, noFront, (List.cons.inj isLast).1,
      List.nil_append, List.map_cons, List.map_cons, Text.trim_blank_append blankness]
  · cases impossible

theorem trimmedSegments_append_blank (text : List Char) :
    trimmedSegments (text ++ blanks) = trimmedSegments text := by
  rcases exists_segmentsFrom_append .start text blanks with
    ⟨front, last, first, others, ofText, ofBlanks, ofWhole⟩
  have isSingle := segmentsFrom_of_noComma (ScanState.start.after text)
    (blankness.notMem (c := ',') (by decide))
  rcases List.cons.inj (ofBlanks.symm.trans isSingle) with ⟨isFirst, noOthers⟩
  change segmentsFrom .outside 0 text = _ at ofText
  change segmentsFrom .outside 0 (text ++ blanks) = _ at ofWhole
  rw [trimmedSegments, trimmedSegments, ofWhole, ofText, isFirst, noOthers, List.map_append,
    List.map_append, List.map_singleton, List.map_singleton, Text.trim_append_blank blankness]

end Blanks

theorem segments_trim (text : List Char) : segments (Text.trim text) = segments text := by
  rcases Text.exists_trim text with ⟨left, right, isText, leftBlank, rightBlank⟩
  apply segments_congr
  calc trimmedSegments (Text.trim text)
      = trimmedSegments (Text.trim text ++ right) :=
        (trimmedSegments_append_blank rightBlank _).symm
    _ = trimmedSegments (left ++ (Text.trim text ++ right)) :=
        (trimmedSegments_blank_append leftBlank _).symm
    _ = trimmedSegments text := by rw [← isText]

end Listing

end DalvikFold
