namespace DalvikFold
namespace Text

/-!
Blank characters and line ends, and the ways a text is cut at them.

Blank is the standard's White_Space property, which is wider than ASCII: it
holds the no-break spaces, the ideographic space and the two line separators,
and it does not hold the zero-width space.  Everything here works on lists of
characters, so that each cut is a list operation with the laws of that
operation.
-/

/-! ## Blanks -/

/-- White space: the twenty-five characters with the property of that name. -/
def isBlank (c : Char) : Bool :=
  let code := c.toNat
  (0x09 ≤ code && code ≤ 0x0d) || code == 0x20 || code == 0x85 || code == 0xa0 ||
    code == 0x1680 || (0x2000 ≤ code && code ≤ 0x200a) || code == 0x2028 ||
    code == 0x2029 || code == 0x202f || code == 0x205f || code == 0x3000

/-- The text without the blanks at its left end. -/
def trimLeft (text : List Char) : List Char :=
  text.dropWhile isBlank

/-- The text without the blanks at its right end. -/
def trimRight (text : List Char) : List Char :=
  (text.reverse.dropWhile isBlank).reverse

/-- The text without the blanks at either end. -/
def trim (text : List Char) : List Char :=
  trimRight (trimLeft text)

/-- The maximal runs of characters that are not blank. -/
def words (text : List Char) : List (List Char) :=
  (text.splitOnP isBlank).filter (fun piece => !piece.isEmpty)

/-- The text up to its first blank, and the text after that blank; the second
part is absent if the text has no blank. -/
def cutAtBlank (text : List Char) : List Char × Option (List Char) :=
  match text.dropWhile (fun c => !isBlank c) with
  | [] => (text, none)
  | _ :: rest => (text.takeWhile (fun c => !isBlank c), some rest)

/-!
## Lines

A line ends at a line feed, and a carriage return just before the line feed
belongs to the line end.  What follows the last line feed is a line only if it
is not empty, so a final line feed adds no line and an empty text has none.
-/

/-- The line without a carriage return at its right end. -/
def dropReturn (line : List Char) : List Char :=
  if line.getLast? = some '\r' then line.dropLast else line

/-- The lines among the pieces between line feeds: every piece but the last is
ended by a line feed, and the last counts only if it holds something. -/
def endedLines : List (List Char) -> List (List Char)
  | [] => []
  | [last] => if last.isEmpty then [] else [last]
  | piece :: others => dropReturn piece :: endedLines others

/-- The lines of a text, without their line ends. -/
def lines (text : List Char) : List (List Char) :=
  endedLines (text.splitOn '\n')

end Text
end DalvikFold
