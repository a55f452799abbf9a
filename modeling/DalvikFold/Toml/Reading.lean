namespace DalvikFold
namespace Toml

/-!
Readings: functions that take something from the front of a text, or fail.

A reading returns what it took together with the rest of the text, and a
reading that fails takes nothing.  Alternatives are therefore tried in order
from the same place, and repetition ends where the next reading fails.
-/

/-- A function that takes something from the front of a text, or fails. -/
abbrev Reading := StateT (List Char) Option

namespace Reading

variable {value : Type}

/-- The first character of the text, which stays there. -/
def peek : Reading (Option Char) :=
  fun text => some (text.head?, text)

def next : Reading Char
  | [] => none
  | c :: rest => some (c, rest)

/-- Whether the text starts with the given characters, which are taken. -/
def skip (expected : List Char) : Reading Bool :=
  fun text =>
    if expected.isPrefixOf text then
      some (true, text.drop expected.length)
    else
      some (false, text)

/-- The given characters, which have to be there. -/
def expect (expected : List Char) : Reading Unit := do
  unless (<- skip expected) do failure

/-- The longest run of characters of a class. -/
def takeWhile (member : Char -> Bool) : Reading (List Char) :=
  fun text => some (text.takeWhile member, text.dropWhile member)

/-- A reading as often as it succeeds, up to a bound. -/
def upTo (reading : Reading value) : Nat -> Reading (List value)
  | 0 => fun text => some ([], text)
  | bound + 1 => fun text =>
      match reading text with
      | none => some ([], text)
      | some (first, rest) =>
          (upTo reading bound rest).map (fun (others, rest) => (first :: others, rest))

/-- A reading as often as it succeeds.  A reading that takes something succeeds
at most once for each character. -/
def many (reading : Reading value) : Reading (List value) :=
  fun text => reading.upTo text.length text

end Reading

/-! ## Blanks, comments and line ends -/

/-- Blanks inside a line. -/
def isSpace (c : Char) : Bool :=
  c == ' ' || c == '\t'

/-- The characters of comments and strings: all but the control characters, of
which the tab alone is allowed. -/
def isTextual (c : Char) : Bool :=
  c == '\t' || (' ' ≤ c && c != '\x7f')

def spaces : Reading Unit :=
  discard (Reading.takeWhile isSpace)

/-- The end of a line that is not the last one. -/
def newline : Reading Unit := do
  let _ <- Reading.skip ['\r']
  Reading.expect ['\n']

def comment : Reading Unit := do
  if (<- Reading.peek) == some '#' then
    discard (Reading.takeWhile isTextual)

/-- The end of a line: blanks, perhaps a comment, and then nothing more on the
line. -/
def lineEnd : Reading Unit := do
  spaces
  comment
  if (<- Reading.peek).isSome then newline

/-- One blank line that is not the last one, with its comment. -/
def blankLine : Reading Unit := do
  spaces
  comment
  newline

/-- Blanks, comments and line ends, as they may stand between the items of an
array. -/
def gap : Reading Unit := do
  let _ <- blankLine.many
  spaces

end Toml
end DalvikFold
