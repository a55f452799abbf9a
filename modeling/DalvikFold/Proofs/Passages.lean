import DalvikFold.Listing.Basic

namespace DalvikFold

/-!
# What the scans of a line pass over

The scan for a comment and the scan for commas go by the same quotes, and the
second one counts brackets as well.  A *passage* takes both of them over a text
in which neither finds what it looks for.  Passages compose, and so a line can
be put together from texts that the scans pass over one by one.

A text is closed if the scans leave it as they entered it, outside of quotes and
of brackets.  Operands are told apart by the commas between them as long as each
is closed but the last.  That one may leave quotes or brackets open, which then
hide whatever follows them.
-/

namespace Text

/-! ## Blanks -/

/-- The text neither starts nor ends with a blank. -/
structure Trimmed (text : List Char) : Prop where
  atLeft : forall c, text.head? = some c -> isBlank c = false
  atRight : forall c, text.getLast? = some c -> isBlank c = false

theorem Trimmed.trim_eq {text : List Char} (trimmed : Trimmed text) : trim text = text := by
  have leftKept : trimLeft text = text := by
    cases text with
    | nil => rfl
    | cons first rest => exact List.dropWhile_cons_of_neg (by simp [trimmed.atLeft first rfl])
  have rightKept : trimRight text = text := by
    cases reversed : text.reverse with
    | nil => simp [trimRight, List.reverse_eq_nil_iff.mp reversed]
    | cons last rest =>
        have isLast : text.getLast? = some last := by
          rw [List.getLast?_eq_head?_reverse, reversed, List.head?_cons]
        rw [trimRight, reversed, List.dropWhile_cons_of_neg (by simp [trimmed.atRight last isLast]),
          ← reversed, List.reverse_reverse]
  rw [trim, leftKept, rightKept]

theorem Trimmed.of_unbroken {text : List Char}
    (unbroken : forall c, c ∈ text -> isBlank c = false) : Trimmed text where
  atLeft c isFirst := unbroken c (List.mem_of_mem_head? isFirst)
  atRight c isLast := unbroken c (List.mem_of_getLast? isLast)

theorem trim_cons_blank {blank : Char} (blankness : isBlank blank = true)
    (text : List Char) : trim (blank :: text) = trim text := by
  rw [trim, trim, trimLeft, List.dropWhile_cons_of_pos blankness, trimLeft]

theorem not_isBlank_of_head?_dropWhile {text : List Char} {c : Char}
    (isFirst : (text.dropWhile isBlank).head? = some c) : isBlank c = false := by
  have noBlank := List.head?_dropWhile_not isBlank text
  rwa [isFirst] at noBlank

theorem isBlank_of_mem_takeWhile {text : List Char} {c : Char}
    (member : c ∈ text.takeWhile isBlank) : isBlank c = true :=
  List.all_eq_true.mp List.all_takeWhile c member

theorem exists_trimRight (text : List Char) :
    Exists fun right => text = trimRight text ++ right ∧
      (forall c, c ∈ right -> isBlank c = true) := by
  refine ⟨(text.reverse.takeWhile isBlank).reverse, ?_, ?_⟩
  · rw [trimRight, ← List.reverse_append, List.takeWhile_append_dropWhile, List.reverse_reverse]
  · intro c member
    exact isBlank_of_mem_takeWhile (List.mem_reverse.mp member)

/-- Trimming takes blanks away and nothing else. -/
theorem exists_trim (text : List Char) :
    Exists fun left => Exists fun right => text = left ++ (trim text ++ right) ∧
      (forall c, c ∈ left -> isBlank c = true) ∧ (forall c, c ∈ right -> isBlank c = true) := by
  rcases exists_trimRight (trimLeft text) with ⟨right, isRest, rightBlank⟩
  refine ⟨text.takeWhile isBlank, right, ?_, fun c => isBlank_of_mem_takeWhile, rightBlank⟩
  rw [trim, ← isRest, trimLeft, List.takeWhile_append_dropWhile]

theorem trimmed_trim (text : List Char) : Trimmed (trim text) where
  atLeft := by
    intro c isFirst
    rcases exists_trimRight (trimLeft text) with ⟨right, isRest, _⟩
    have isFirstToo : (text.dropWhile isBlank).head? = some c := by
      rw [← trimLeft, isRest, List.head?_append, ← trim, isFirst, Option.some_or]
    exact not_isBlank_of_head?_dropWhile isFirstToo
  atRight := by
    intro c isLast
    rw [trim, trimRight, List.getLast?_reverse] at isLast
    exact not_isBlank_of_head?_dropWhile isLast

theorem mem_of_mem_trim {text : List Char} {c : Char} (member : c ∈ trim text) : c ∈ text := by
  rcases exists_trim text with ⟨left, right, isText, _⟩
  rw [isText]
  exact List.mem_append_right left (List.mem_append_left right member)

/-- A text is cut at the blank that follows its first word. -/
theorem cutAtBlank_append {word : List Char} (unbroken : forall c, c ∈ word -> isBlank c = false)
    {blank : Char} (blankness : isBlank blank = true) (rest : List Char) :
    cutAtBlank (word ++ blank :: rest) = (word, some rest) := by
  have passes : forall c, c ∈ word -> (!isBlank c) = true := by
    intro c member
    rw [unbroken c member, Bool.not_false]
  have stops : ¬ (!isBlank blank) = true := by simp [blankness]
  rw [cutAtBlank, List.dropWhile_append_of_pos passes, List.takeWhile_append_of_pos passes,
    List.dropWhile_cons_of_neg (p := fun c => !isBlank c) stops,
    List.takeWhile_cons_of_neg (p := fun c => !isBlank c) stops, List.append_nil]

theorem cutAtBlank_of_unbroken {word : List Char}
    (unbroken : forall c, c ∈ word -> isBlank c = false) : cutAtBlank word = (word, none) := by
  have noBlank : (word ++ []).dropWhile (fun c => !isBlank c) = [] := by
    apply List.dropWhile_append_of_pos
    intro c member
    rw [unbroken c member, Bool.not_false]
  rw [List.append_nil] at noBlank
  rw [cutAtBlank, noBlank]

theorem cutAtBlank_cases (text : List Char) :
    cutAtBlank text = (text, none) ∨
      Exists fun word => Exists fun blank => Exists fun rest => isBlank blank = true ∧
        text = word ++ blank :: rest ∧ cutAtBlank text = (word, some rest) := by
  have isText := List.takeWhile_append_dropWhile (p := fun c => !isBlank c) (l := text)
  unfold cutAtBlank
  cases isRest : text.dropWhile (fun c => !isBlank c) with
  | nil => exact .inl rfl
  | cons blank rest =>
      have isFirst := List.head?_dropWhile_not (fun c => !isBlank c) text
      rw [isRest] at isFirst isText
      refine .inr ⟨_, blank, rest, ?_, isText.symm, rfl⟩
      simpa using isFirst

end Text

namespace Listing

/-! ## Passages -/

/-- Where the scans stand: with respect to quotes, and in how many brackets. -/
structure ScanState where
  quotation : Quotation
  depth : Nat
  deriving Repr, DecidableEq

namespace ScanState

/-- Where the scans start. -/
def start : ScanState :=
  ⟨.outside, 0⟩

/-- Where the scans stand after one more character. -/
def step (state : ScanState) (c : Char) : ScanState :=
  ⟨state.quotation.step c,
    if state.quotation = .outside then depthAfter state.depth c else state.depth⟩

end ScanState

/-- The scans go over a text from one state to another without finding the
start of a comment or a comma between operands. -/
inductive Passage : ScanState -> List Char -> ScanState -> Prop where
  | nil (state : ScanState) : Passage state [] state
  | cons {state after : ScanState} {c : Char} {text : List Char}
      (noSign : ¬ (c = '#' ∧ state.quotation = .outside))
      (noComma : ¬ (c = ',' ∧ state.quotation = .outside ∧ state.depth = 0))
      (rest : Passage (state.step c) text after) : Passage state (c :: text) after

theorem segmentsFrom_cons {state : ScanState} {c : Char}
    (noComma : ¬ (c = ',' ∧ state.quotation = .outside ∧ state.depth = 0)) {rest first : List Char}
    {others : List (List Char)}
    (isRest : segmentsFrom (state.step c).quotation (state.step c).depth rest = first :: others) :
    segmentsFrom state.quotation state.depth (c :: rest) = (c :: first) :: others := by
  simp only [ScanState.step] at isRest
  rw [segmentsFrom, if_neg noComma]
  simp only [isRest]

namespace Passage

variable {state middle after : ScanState} {text : List Char}

/-- Inside of quotes there is nothing to find. -/
theorem cons_of_quoted {c : Char} (inQuotes : state.quotation ≠ .outside)
    (rest : Passage (state.step c) text after) : Passage state (c :: text) after :=
  .cons (fun isSign => inQuotes isSign.2) (fun isComma => inQuotes isComma.2.1) rest

theorem append {others : List Char} (first : Passage state text middle)
    (second : Passage middle others after) : Passage state (text ++ others) after := by
  induction first with
  | nil state => exact second
  | cons noSign noComma rest inductionHypothesis =>
      exact .cons noSign noComma (inductionHypothesis second)

theorem exists_of_append {others : List Char} (passage : Passage state (text ++ others) after) :
    Exists fun middle => Passage state text middle ∧ Passage middle others after := by
  induction text generalizing state with
  | nil => exact ⟨state, .nil state, passage⟩
  | cons c text inductionHypothesis =>
      cases passage with
      | cons noSign noComma rest =>
          rcases inductionHypothesis rest with ⟨middle, first, second⟩
          exact ⟨middle, .cons noSign noComma first, second⟩

/-- The comment of a line is in what follows a passage. -/
theorem stripCommentFrom_append (passage : Passage state text after) (rest : List Char) :
    stripCommentFrom state.quotation (text ++ rest) =
      text ++ stripCommentFrom after.quotation rest := by
  induction passage with
  | nil state => rfl
  | cons noSign noComma passage inductionHypothesis =>
      rw [List.cons_append, stripCommentFrom, if_neg noSign, List.cons_append]
      exact congrArg _ inductionHypothesis

/-- A passage belongs to one segment. -/
theorem segmentsFrom_append (passage : Passage state text after) {rest first : List Char}
    {others : List (List Char)}
    (isRest : segmentsFrom after.quotation after.depth rest = first :: others) :
    segmentsFrom state.quotation state.depth (text ++ rest) = (text ++ first) :: others := by
  induction passage with
  | nil state => exact isRest
  | cons noSign noComma passage inductionHypothesis =>
      exact segmentsFrom_cons noComma (inductionHypothesis isRest)

end Passage

/-! ## Inside of quotes -/

/-- The inside of a string literal, or the beginning of it.  A quote stands there
only behind a backslash, and a backslash takes the next character with it. -/
inductive Quoted : List Char -> Prop where
  | nil : Quoted []
  | itself {c : Char} {text : List Char} (notQuote : c ≠ '"') (notBackslash : c ≠ '\\')
      (rest : Quoted text) : Quoted (c :: text)
  | escape {text : List Char} (c : Char) (rest : Quoted text) : Quoted ('\\' :: c :: text)

/-- The scans stay inside of the quotes. -/
theorem Quoted.passage {body : List Char} (quoted : Quoted body) (depth : Nat) :
    Passage ⟨.inside, depth⟩ body ⟨.inside, depth⟩ := by
  induction quoted with
  | nil => exact .nil _
  | @itself c text notQuote notBackslash _ inductionHypothesis =>
      have stays : ScanState.step ⟨.inside, depth⟩ c = ⟨.inside, depth⟩ := by
        rw [ScanState.step, Quotation.step, if_neg notBackslash, if_neg notQuote]
        rfl
      apply Passage.cons_of_quoted Quotation.noConfusion
      rw [stays]
      exact inductionHypothesis
  | escape c _ inductionHypothesis =>
      apply Passage.cons_of_quoted Quotation.noConfusion
      apply Passage.cons_of_quoted Quotation.noConfusion
      exact inductionHypothesis

/-- The scans pass over the quote that opens a literal as well. -/
theorem Quoted.passage_cons {body : List Char} (quoted : Quoted body) {state : ScanState}
    (isOutside : state.quotation = .outside) :
    Passage state ('"' :: body) ⟨.inside, state.depth⟩ := by
  rcases state with ⟨quotation, depth⟩
  subst isOutside
  have notSign : ¬ ('"' = '#' ∧ Quotation.outside = .outside) := by decide
  have notComma : ¬ ('"' = ',' ∧ Quotation.outside = .outside ∧ depth = 0) :=
    fun isComma => absurd isComma.1 (by decide)
  exact .cons notSign notComma (quoted.passage depth)

/-! ## Plain characters and blanks -/

/-- Whether a scan of a line gives the character a meaning. -/
def isSpecial (c : Char) : Bool :=
  c ∈ ['"', '#', ',', '\x7b', '\x7d', '(', ')']

theorem ne_of_not_special {c special : Char} (plain : isSpecial c = false)
    (hasMeaning : isSpecial special = true) : c ≠ special := by
  intro same
  rw [same, hasMeaning] at plain
  exact Bool.noConfusion plain

theorem depthAfter_of_plain {c : Char} (plain : isSpecial c = false) (depth : Nat) :
    depthAfter depth c = depth := by
  have notOpening : ¬ (c = '\x7b' ∨ c = '(') := by
    intro opening
    rcases opening with isBrace | isParenthesis
    · exact ne_of_not_special plain (by decide) isBrace
    · exact ne_of_not_special plain (by decide) isParenthesis
  have notClosing : ¬ (c = '\x7d' ∨ c = ')') := by
    intro closing
    rcases closing with isBrace | isParenthesis
    · exact ne_of_not_special plain (by decide) isBrace
    · exact ne_of_not_special plain (by decide) isParenthesis
  rw [depthAfter, if_neg notOpening, if_neg notClosing]

/-- Outside of quotes a plain character changes nothing. -/
theorem ScanState.step_of_plain {c : Char} (plain : isSpecial c = false) {state : ScanState}
    (isOutside : state.quotation = .outside) : state.step c = state := by
  rcases state with ⟨quotation, depth⟩
  subst isOutside
  have notQuote : c ≠ '"' := ne_of_not_special plain (by decide)
  rw [step, Quotation.step, if_neg notQuote, if_pos rfl, depthAfter_of_plain plain]

theorem isSpecial_of_isBlank {c : Char} (blankness : Text.isBlank c = true) :
    isSpecial c = false := by
  cases special : isSpecial c with
  | false => rfl
  | true =>
      have noneBlank : ['"', '#', ',', '\x7b', '\x7d', '(', ')'].all
          (fun c => !Text.isBlank c) = true := by
        decide
      have notBlank := List.all_eq_true.mp noneBlank c (of_decide_eq_true special)
      rw [blankness] at notBlank
      cases notBlank

/-- A blank does not lead out of quotes, and outside of them it changes nothing. -/
theorem ScanState.step_of_isBlank {c : Char} (blankness : Text.isBlank c = true)
    (state : ScanState) :
    state.step c = state ∨
      (state.quotation ≠ .outside ∧ (state.step c).quotation ≠ .outside) := by
  have plain := isSpecial_of_isBlank blankness
  rcases state with ⟨quotation, depth⟩
  cases quotation with
  | outside => exact .inl (step_of_plain plain rfl)
  | inside =>
      refine .inr ⟨Quotation.noConfusion, ?_⟩
      have notQuote : c ≠ '"' := ne_of_not_special plain (by decide)
      change (if c = '\\' then Quotation.escaped else if c = '"' then .outside else .inside) ≠ _
      rw [if_neg notQuote]
      split <;> exact Quotation.noConfusion
  | escaped => exact .inr ⟨Quotation.noConfusion, Quotation.noConfusion⟩

theorem Passage.of_isBlank {state after : ScanState} {text : List Char}
    (blankness : forall c, c ∈ text -> Text.isBlank c = true) (passage : Passage state text after) :
    state = after ∨ (state.quotation ≠ .outside ∧ after.quotation ≠ .outside) := by
  induction passage with
  | nil state => exact .inl rfl
  | @cons state after c text noSign noComma rest inductionHypothesis =>
      have ofRest := inductionHypothesis
        (fun other member => blankness other (List.mem_cons_of_mem c member))
      rcases state.step_of_isBlank (blankness c List.mem_cons_self) with stays | inQuotes
      · rwa [stays] at ofRest
      · rcases ofRest with same | restInQuotes
        · exact .inr ⟨inQuotes.1, same ▸ inQuotes.2⟩
        · exact .inr ⟨inQuotes.1, restInQuotes.2⟩

/-- The scans pass over the text and are back where they started. -/
def Closed (text : List Char) : Prop :=
  Passage .start text .start

theorem Closed.of_plain {text : List Char} (plain : forall c, c ∈ text -> isSpecial c = false) :
    Closed text := by
  unfold Closed
  induction text with
  | nil => exact .nil .start
  | cons c text inductionHypothesis =>
      have isPlain := plain c List.mem_cons_self
      refine .cons ?_ ?_ ?_
      · intro isSign
        exact ne_of_not_special isPlain (by decide) isSign.1
      · intro isComma
        exact ne_of_not_special isPlain (by decide) isComma.1
      · rw [ScanState.step_of_plain isPlain rfl]
        exact inductionHypothesis (fun other member => plain other (List.mem_cons_of_mem c member))

theorem Closed.of_isBlank {blank : Char} (blankness : Text.isBlank blank = true) :
    Closed [blank] := by
  apply Closed.of_plain
  intro c member
  rw [List.mem_singleton.mp member]
  exact isSpecial_of_isBlank blankness

/-- A passage goes over the trimmed text as well. -/
theorem Passage.trim {text : List Char} {after : ScanState} (passage : Passage .start text after) :
    Exists fun between => Passage .start (Text.trim text) between ∧
      (after = .start -> between = .start) := by
  rcases Text.exists_trim text with ⟨left, right, isText, leftBlank, rightBlank⟩
  rw [isText] at passage
  rcases passage.exists_of_append with ⟨entered, onLeft, afterLeft⟩
  rcases afterLeft.exists_of_append with ⟨between, onTrimmed, onRight⟩
  have isStart : ScanState.start = entered := by
    rcases onLeft.of_isBlank leftBlank with same | inQuotes
    · exact same
    · exact absurd rfl inQuotes.1
  subst isStart
  refine ⟨between, onTrimmed, ?_⟩
  intro isStart
  rcases onRight.of_isBlank rightBlank with same | inQuotes
  · exact same.trans isStart
  · exact absurd (congrArg ScanState.quotation isStart) inQuotes.2

theorem Closed.trim {text : List Char} (closed : Closed text) : Closed (Text.trim text) := by
  rcases Passage.trim closed with ⟨between, trimmed, isStart⟩
  rw [isStart rfl] at trimmed
  exact trimmed

/-! ## Operands and the commas between them -/

/-- Texts that are told apart by commas between them.  Each is closed, except
that the last one may leave quotes or brackets open. -/
inductive Separable : List (List Char) -> Prop where
  | nil : Separable []
  | last {text : List Char} {after : ScanState} (passage : Passage .start text after) :
      Separable [text]
  | cons {text : List Char} {others : List (List Char)} (closed : Closed text)
      (rest : Separable others) : Separable (text :: others)

namespace Separable

variable {texts others : List (List Char)}

theorem append (closed : forall text, text ∈ texts -> Closed text) (rest : Separable others) :
    Separable (texts ++ others) := by
  induction texts with
  | nil => exact rest
  | cons text texts inductionHypothesis =>
      exact .cons (closed text List.mem_cons_self)
        (inductionHypothesis (fun other member => closed other (List.mem_cons_of_mem text member)))

theorem map_trim (separable : Separable texts) : Separable (texts.map Text.trim) := by
  induction separable with
  | nil => exact .nil
  | last passage =>
      rcases passage.trim with ⟨between, trimmed, _⟩
      exact .last trimmed
  | cons closed rest inductionHypothesis =>
      exact .cons closed.trim inductionHypothesis

theorem dropLast (separable : Separable texts) : Separable texts.dropLast := by
  induction separable with
  | nil => exact .nil
  | last passage => exact .nil
  | @cons text others closed rest inductionHypothesis =>
      cases others with
      | nil => exact .nil
      | cons next others => exact .cons closed inductionHypothesis

/-- The last of the texts is the first one, or the first one is closed. -/
theorem of_first {text : List Char} {after : ScanState} (passage : Passage .start text after)
    (rest : Separable others) (isEnd : others = [] ∨ after = .start) :
    Separable (text :: others) := by
  rcases isEnd with isLast | isStart
  · rw [isLast]
    exact .last passage
  · rw [isStart] at passage
    exact .cons passage rest

end Separable

/-- A text without a comment is cut into a first segment, which the scans pass
over, and more segments after it if that passage is back at the start. -/
theorem exists_segmentsFrom (state : ScanState) {text : List Char}
    (noComment : stripCommentFrom state.quotation text = text) :
    Exists fun first => Exists fun others => Exists fun after =>
      segmentsFrom state.quotation state.depth text = first :: others ∧
        Passage state first after ∧ Separable others ∧ (others = [] ∨ after = .start) := by
  induction text generalizing state with
  | nil => exact ⟨[], [], state, rfl, .nil state, .nil, .inl rfl⟩
  | cons c text inductionHypothesis =>
      rw [stripCommentFrom] at noComment
      by_cases isSign : c = '#' ∧ state.quotation = .outside
      · rw [if_pos isSign] at noComment
        cases noComment
      · rw [if_neg isSign] at noComment
        have restUncommented := (List.cons.inj noComment).2
        by_cases isComma : c = ',' ∧ state.quotation = .outside ∧ state.depth = 0
        · -- The scans start anew behind a comma, so the first segment is closed.
          rcases state with ⟨quotation, depth⟩
          rcases isComma with ⟨isComma, isOutside, isZero⟩
          subst isComma isOutside isZero
          rcases inductionHypothesis .start restUncommented with
            ⟨first, others, after, areSegments, passage, separable, isEnd⟩
          exact ⟨[], first :: others, .start, congrArg _ areSegments, .nil _,
            .of_first passage separable isEnd, .inr rfl⟩
        · rcases inductionHypothesis (state.step c) restUncommented with
            ⟨first, others, after, areSegments, passage, separable, isEnd⟩
          refine ⟨c :: first, others, after, ?_, .cons isSign isComma passage, separable, isEnd⟩
          exact segmentsFrom_cons isComma areSegments

theorem separable_segments {text : List Char} (noComment : stripComment text = text) :
    Separable (segments text) := by
  rcases exists_segmentsFrom .start noComment with
    ⟨first, others, after, areSegments, passage, separable, isEnd⟩
  have areSeparable : Separable ((segmentsFrom .outside 0 text).map Text.trim) := by
    apply Separable.map_trim
    change Separable (segmentsFrom ScanState.start.quotation ScanState.start.depth text)
    rw [areSegments]
    exact .of_first passage separable isEnd
  rw [segments]
  split
  · exact areSeparable.dropLast
  · exact areSeparable

theorem mem_of_mem_segmentsFrom {state : Quotation} {depth : Nat} {text segment : List Char}
    (isSegment : segment ∈ segmentsFrom state depth text) {c : Char} (member : c ∈ segment) :
    c ∈ text := by
  induction text generalizing state depth segment with
  | nil =>
      rw [List.mem_singleton.mp isSegment] at member
      exact member
  | cons first text inductionHypothesis =>
      rw [segmentsFrom] at isSegment
      split at isSegment
      · rcases List.mem_cons.mp isSegment with isEmpty | inRest
        · rw [isEmpty] at member
          cases member
        · exact List.mem_cons_of_mem first (inductionHypothesis inRest member)
      · dsimp only at isSegment
        generalize areSegments : segmentsFrom _ _ text = pieces at isSegment
        cases pieces with
        | nil =>
            rw [List.mem_singleton.mp isSegment, List.mem_singleton] at member
            exact member ▸ List.mem_cons_self
        | cons next others =>
            have inText : forall other, other ∈ next :: others -> c ∈ other -> c ∈ text := by
              intro other isOther
              rw [← areSegments] at isOther
              exact inductionHypothesis isOther
            rcases List.mem_cons.mp isSegment with isNext | isOther
            · rw [isNext] at member
              rcases List.mem_cons.mp member with isFirst | inNext
              · exact isFirst ▸ List.mem_cons_self
              · exact List.mem_cons_of_mem first (inText next List.mem_cons_self inNext)
            · exact List.mem_cons_of_mem first
                (inText segment (List.mem_cons_of_mem next isOther) member)

theorem exists_of_mem_segments {text segment : List Char} (isSegment : segment ∈ segments text) :
    Exists fun raw => raw ∈ segmentsFrom .outside 0 text ∧ Text.trim raw = segment := by
  apply List.mem_map.mp
  rw [segments] at isSegment
  split at isSegment
  · exact List.dropLast_subset _ isSegment
  · exact isSegment

theorem trimmed_of_mem_segments {text segment : List Char} (isSegment : segment ∈ segments text) :
    Text.Trimmed segment := by
  rcases exists_of_mem_segments isSegment with ⟨raw, _, isTrimmed⟩
  exact isTrimmed ▸ Text.trimmed_trim raw

theorem mem_of_mem_segments {text segment : List Char} (isSegment : segment ∈ segments text)
    {c : Char} (member : c ∈ segment) : c ∈ text := by
  rcases exists_of_mem_segments isSegment with ⟨raw, isRaw, isTrimmed⟩
  rw [← isTrimmed] at member
  exact mem_of_mem_segmentsFrom isRaw (Text.mem_of_mem_trim member)

/-! ## Comments -/

theorem Closed.stripComment_append {text : List Char} (closed : Closed text) (rest : List Char) :
    stripComment (text ++ rest) = text ++ stripComment rest :=
  closed.stripCommentFrom_append rest

/-- What is left of a line holds no comment. -/
theorem stripCommentFrom_stripCommentFrom (state : Quotation) (text : List Char) :
    stripCommentFrom state (stripCommentFrom state text) = stripCommentFrom state text := by
  induction text generalizing state with
  | nil => rfl
  | cons c text inductionHypothesis =>
      by_cases isSign : c = '#' ∧ state = .outside
      · rw [stripCommentFrom, if_pos isSign, stripCommentFrom]
      · rw [stripCommentFrom, if_neg isSign, stripCommentFrom, if_neg isSign, inductionHypothesis]

theorem stripCommentFrom_of_append {state : Quotation} {text rest : List Char}
    (noComment : stripCommentFrom state (text ++ rest) = text ++ rest) :
    stripCommentFrom state text = text := by
  induction text generalizing state with
  | nil => rfl
  | cons c text inductionHypothesis =>
      rw [List.cons_append, stripCommentFrom] at noComment
      by_cases isSign : c = '#' ∧ state = .outside
      · rw [if_pos isSign] at noComment
        cases noComment
      · rw [if_neg isSign] at noComment
        rw [stripCommentFrom, if_neg isSign, inductionHypothesis (List.cons.inj noComment).2]

theorem stripCommentFrom_subset (state : Quotation) (text : List Char) :
    stripCommentFrom state text ⊆ text := by
  induction text generalizing state with
  | nil => exact List.Subset.refl []
  | cons c text inductionHypothesis =>
      rw [stripCommentFrom]
      split
      · exact List.nil_subset _
      · exact List.cons_subset_cons c (inductionHypothesis (state.step c))

/-- The text has no comment, and neither has what follows a closed text in it. -/
theorem Closed.stripComment_of_append {text rest : List Char} (closed : Closed text)
    (noComment : stripComment (text ++ rest) = text ++ rest) : stripComment rest = rest := by
  rw [closed.stripComment_append] at noComment
  exact List.append_cancel_left noComment

theorem stripComment_trim {text : List Char} (noComment : stripComment text = text) :
    stripComment (Text.trim text) = Text.trim text := by
  rcases Text.exists_trim text with ⟨left, right, isText, leftBlank, _⟩
  have leftClosed : Closed left :=
    .of_plain (fun c member => isSpecial_of_isBlank (leftBlank c member))
  rw [isText] at noComment
  exact stripCommentFrom_of_append (leftClosed.stripComment_of_append noComment)

/-! ## Joined operands -/

/-- Operands as an instruction is written with them. -/
def joined (texts : List (List Char)) : List Char :=
  [',', ' '].intercalate texts

theorem joined_cons_cons (text next : List Char) (others : List (List Char)) :
    joined (text :: next :: others) = text ++ ',' :: ' ' :: joined (next :: others) := by
  rw [joined, List.intercalate_cons_cons, List.append_assoc]
  rfl

theorem joined_singleton (text : List Char) : joined [text] = text :=
  List.intercalate_singleton

namespace Separable

variable {texts : List (List Char)}

theorem exists_passage {text : List Char} (separable : Separable (text :: texts)) :
    Exists fun after => Passage .start text after := by
  cases separable with
  | last passage => exact ⟨_, passage⟩
  | cons closed rest => exact ⟨_, closed⟩

/-- Joined operands hold no comment. -/
theorem stripComment_joined (separable : Separable texts) :
    stripComment (joined texts) = joined texts := by
  induction separable with
  | nil => rfl
  | @last text after passage =>
      have whole := passage.stripCommentFrom_append []
      rw [stripCommentFrom, List.append_nil] at whole
      rw [joined_singleton]
      exact whole
  | @cons text others closed rest inductionHypothesis =>
      cases others with
      | nil =>
          have whole := closed.stripComment_append []
          rw [List.append_nil] at whole
          rw [joined_singleton, whole]
          exact List.append_nil text
      | cons next others =>
          have pastComma : stripComment (',' :: ' ' :: joined (next :: others)) =
              ',' :: ' ' :: stripComment (joined (next :: others)) := rfl
          rw [joined_cons_cons, closed.stripComment_append, pastComma, inductionHypothesis]

/-- Each operand is a segment, and the blanks after the commas are still there. -/
theorem segmentsFrom_joined {text : List Char} {others : List (List Char)}
    (separable : Separable (text :: others)) :
    segmentsFrom .outside 0 (joined (text :: others)) = text :: others.map (' ' :: ·) := by
  induction others generalizing text with
  | nil =>
      rcases separable.exists_passage with ⟨after, passage⟩
      have atEnd : segmentsFrom after.quotation after.depth [] = [[]] := rfl
      have whole := passage.segmentsFrom_append atEnd
      rw [List.append_nil] at whole
      rw [joined_singleton]
      exact whole
  | cons next others inductionHypothesis =>
      cases separable with
      | cons closed rest =>
          have isSpace : Closed [' '] := .of_isBlank (by decide)
          have pastComma : segmentsFrom .outside 0 (',' :: ' ' :: joined (next :: others)) =
              [] :: (' ' :: next) :: others.map (' ' :: ·) :=
            congrArg _ (isSpace.segmentsFrom_append (inductionHypothesis rest))
          have ofText := closed.segmentsFrom_append pastComma
          rwa [List.append_nil, ← joined_cons_cons] at ofText

end Separable

/-- Texts that can be written as the operands of a line.  The last one may not
be empty, because a comma at the end of a line separates nothing. -/
structure Writable (texts : List (List Char)) : Prop where
  separable : Separable texts
  trimmed : forall text, text ∈ texts -> Text.Trimmed text
  endsInText : texts.getLast? ≠ some []

namespace Writable

variable {texts : List (List Char)}

/-- The segments of joined operands are the operands. -/
theorem segments_joined (writable : Writable texts) : segments (joined texts) = texts := by
  cases texts with
  | nil => rfl
  | cons text others =>
      have trimmed : (segmentsFrom .outside 0 (joined (text :: others))).map Text.trim =
          text :: others := by
        rw [writable.separable.segmentsFrom_joined, List.map_cons, List.map_map,
          (writable.trimmed text List.mem_cons_self).trim_eq]
        have trims : forall other, other ∈ others ->
            (Text.trim ∘ (' ' :: ·)) other = id other := by
          intro other member
          have isTrimmed := writable.trimmed other (List.mem_cons_of_mem text member)
          rw [Function.comp_apply, Text.trim_cons_blank (by decide), isTrimmed.trim_eq, id]
        rw [List.map_congr_left trims, List.map_id]
      rw [segments, trimmed, if_neg writable.endsInText]

theorem tail {text : List Char} (writable : Writable (text :: texts)) : Writable texts where
  separable := by
    cases writable.separable with
    | last passage => exact .nil
    | cons closed rest => exact rest
  trimmed other member := writable.trimmed other (List.mem_cons_of_mem text member)
  endsInText := by
    intro isLast
    apply writable.endsInText
    rw [List.getLast?_cons, isLast, Option.getD_some]

/-- Joined operands end in a character that is not blank. -/
theorem exists_getLast?_joined (writable : Writable texts) (nonempty : texts ≠ []) :
    Exists fun last => (joined texts).getLast? = some last ∧ Text.isBlank last = false := by
  induction texts with
  | nil => exact absurd rfl nonempty
  | cons text others inductionHypothesis =>
      cases others with
      | nil =>
          have notEmpty : text ≠ [] := by
            intro isEmpty
            exact writable.endsInText (congrArg some isEmpty)
          have isLast := List.getLast?_eq_some_getLast notEmpty
          rw [joined_singleton]
          exact ⟨_, isLast, (writable.trimmed text List.mem_cons_self).atRight _ isLast⟩
      | cons next others =>
          rcases inductionHypothesis writable.tail (List.cons_ne_nil next others) with
            ⟨last, isLast, notBlank⟩
          refine ⟨last, ?_, notBlank⟩
          rw [joined_cons_cons, List.getLast?_append, List.getLast?_cons_cons, List.getLast?_cons,
            isLast, Option.getD_some, Option.some_or]

theorem trimmed_joined (writable : Writable texts) : Text.Trimmed (joined texts) where
  atLeft := by
    intro c isFirst
    cases texts with
    | nil => cases isFirst
    | cons text others =>
        have ofText := (writable.trimmed text List.mem_cons_self).atLeft c
        cases others with
        | nil => exact ofText (joined_singleton text ▸ isFirst)
        | cons next others =>
            rw [joined_cons_cons] at isFirst
            cases text with
            | nil =>
                cases isFirst
                decide
            | cons first rest => exact ofText isFirst
  atRight := by
    intro c isLast
    by_cases isEmpty : texts = []
    · rw [isEmpty] at isLast
      cases isLast
    · rcases writable.exists_getLast?_joined isEmpty with ⟨last, isLastToo, notBlank⟩
      rw [isLastToo] at isLast
      exact Option.some.inj isLast ▸ notBlank

end Writable

end Listing

end DalvikFold
