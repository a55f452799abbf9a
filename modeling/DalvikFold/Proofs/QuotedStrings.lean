import DalvikFold.Proofs.Passages

namespace DalvikFold

/-!
# Quoted strings are read back

A string is printed between quotes and with escapes.  What a listing reads there
is the string again, unless a character had to be written by its code point: the
printer puts that between braces, and the reader expects four digits.

The scans of a line pass over a quoted string, whatever it holds.  No character
of it ends the quotes before the last one does, because every quote and every
backslash has a backslash in front of it.
-/

namespace Text

/-- Whether a quoted text writes the character by its code point. -/
def isWrittenByCodePoint (c : Char) : Bool :=
  ['\\', 'u'].isPrefixOf (quoteChar c)

/-- The two other ways of writing a character in a quoted text. -/
inductive QuotedAs (c : Char) : List Char -> Prop where
  | itself (notQuote : c ≠ '"') (notBackslash : c ≠ '\\') (notLineFeed : c ≠ '\n') :
      QuotedAs c [c]
  | escape {letter : Char} (decoded : Listing.escapedChar? letter = some c) :
      QuotedAs c ['\\', letter]

theorem quotedAs_quoteChar {c : Char} (short : isWrittenByCodePoint c = false) :
    QuotedAs c (quoteChar c) := by
  revert short
  unfold isWrittenByCodePoint quoteChar
  split
  case h_1 | h_2 | h_3 | h_4 | h_5 | h_6 => exact fun _ => .escape rfl
  case h_7 notNull notTab notReturn notLineFeed notQuote notBackslash =>
    intro short
    by_cases isPlain : isPlain c = true
    · rw [if_pos isPlain]
      exact .itself notQuote notBackslash notLineFeed
    · rw [if_neg isPlain] at short
      cases short

namespace QuotedAs

variable {c : Char} {written : List Char}

theorem lineFeed_notMem (quotedAs : QuotedAs c written) : '\n' ∉ written := by
  cases quotedAs with
  | itself notQuote notBackslash notLineFeed =>
      rw [List.mem_singleton]
      exact notLineFeed.symm
  | @escape letter decoded =>
      have notLetter : '\n' ≠ letter := by
        intro isLetter
        rw [← isLetter] at decoded
        cases decoded
      simp [notLetter]

/-- A character that is read back leaves the rest as it is. -/
theorem unescape?_append (quotedAs : QuotedAs c written) (rest : List Char) :
    Listing.unescape? (written ++ rest) = (Listing.unescape? rest).map (c :: ·) := by
  cases quotedAs with
  | itself notQuote notBackslash notLineFeed =>
      rw [List.singleton_append, Listing.unescape?]
      · exact fun _ _ _ _ _ isBackslash => absurd isBackslash notBackslash
      · exact fun _ _ isBackslash => absurd isBackslash notBackslash
      · exact fun isBackslash => absurd isBackslash notBackslash
  | @escape letter decoded =>
      have notCodePoint : letter ≠ 'u' := by
        intro isLetter
        rw [isLetter] at decoded
        cases decoded
      rw [List.cons_append, List.singleton_append, Listing.unescape?, decoded]
      exact fun _ _ _ _ _ isLetter => absurd isLetter notCodePoint

/-- Inside of quotes the scans pass over a character however it is written. -/
theorem passage (quotedAs : QuotedAs c written) (depth : Nat) :
    Listing.Passage ⟨.inside, depth⟩ written ⟨.inside, depth⟩ := by
  cases quotedAs with
  | itself notQuote notBackslash notLineFeed =>
      exact (Listing.Quoted.itself notQuote notBackslash .nil).passage depth
  | @escape letter decoded => exact (Listing.Quoted.escape letter .nil).passage depth

end QuotedAs

/-- Whether a quoted text does without code points. -/
def isShort (text : String) : Bool :=
  text.toList.all (fun c => !isWrittenByCodePoint c)

theorem quotedAs_of_isShort {text : String} (short : isShort text = true) :
    forall c, c ∈ text.toList -> QuotedAs c (quoteChar c) := by
  intro c member
  have isShort := List.all_eq_true.mp short c member
  rw [Bool.not_eq_true'] at isShort
  exact quotedAs_quoteChar isShort

theorem toList_quote (text : String) :
    (quote text).toList = '"' :: (text.toList.flatMap quoteChar ++ ['"']) := by
  rw [quote, String.toList_ofList, List.cons_append]

theorem trimmed_quote (text : String) : Trimmed (quote text).toList := by
  rw [toList_quote]
  constructor
  · intro c isFirst
    cases isFirst
    decide
  · intro c isLast
    rw [List.getLast?_cons, List.getLast?_concat] at isLast
    cases isLast
    decide

section Characters

variable {text : List Char} (quoted : forall c, c ∈ text -> QuotedAs c (quoteChar c))
include quoted

theorem unescape?_flatMap_quoteChar :
    Listing.unescape? (text.flatMap quoteChar) = some text := by
  induction text with
  | nil => rfl
  | cons c text inductionHypothesis =>
      have ofRest := inductionHypothesis
        (fun other member => quoted other (List.mem_cons_of_mem c member))
      rw [List.flatMap_cons, (quoted c List.mem_cons_self).unescape?_append, ofRest]
      rfl

theorem passage_flatMap_quoteChar (depth : Nat) :
    Listing.Passage ⟨.inside, depth⟩ (text.flatMap quoteChar) ⟨.inside, depth⟩ := by
  induction text with
  | nil => exact .nil _
  | cons c text inductionHypothesis =>
      rw [List.flatMap_cons]
      exact ((quoted c List.mem_cons_self).passage depth).append
        (inductionHypothesis (fun other member => quoted other (List.mem_cons_of_mem c member)))

end Characters

section Quotes

variable {text : String} (short : isShort text = true)
include short

/-- The scans pass over a quoted string. -/
theorem closed_quote : Listing.Closed (quote text).toList := by
  have onText := passage_flatMap_quoteChar (quotedAs_of_isShort short) 0
  have onQuote : Listing.Passage ⟨.inside, 0⟩ ['"'] .start :=
    .cons_of_quoted Listing.Quotation.noConfusion (.nil _)
  rw [toList_quote]
  exact .cons (by decide) (by decide) (onText.append onQuote)

theorem stringLiteral?_quote : Listing.stringLiteral? (quote text).toList = some text.toList := by
  have readBack := unescape?_flatMap_quoteChar (quotedAs_of_isShort short)
  rw [toList_quote, Listing.stringLiteral?, List.getLast?_concat, if_pos rfl,
    List.dropLast_concat, readBack]

theorem lineFeed_notMem_quote : '\n' ∉ (quote text).toList := by
  have notInText : '\n' ∉ text.toList.flatMap quoteChar := by
    intro member
    rcases List.mem_flatMap.mp member with ⟨c, isCharacter, isWritten⟩
    exact (quotedAs_of_isShort short c isCharacter).lineFeed_notMem isWritten
  rw [toList_quote]
  simp [notInText]

end Quotes

end Text

end DalvikFold
