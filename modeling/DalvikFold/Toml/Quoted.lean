import DalvikFold.Text.Numeral
import DalvikFold.Toml.Reading

namespace DalvikFold
namespace Toml

/-!
Strings.

A basic string stands between double quotes and knows escapes; a literal string
stands between single quotes and knows none.  Between three quotes either kind
may span lines, the line end right after the opening is dropped, and one or two
quotes may stand directly before the closing three.  In a basic string of
several lines, a backslash at the end of a line takes away the line end and all
blanks after it.
-/

/-- The quote of a literal string. -/
def singleQuote : Char := '\x27'

/-- A code point in the given number of hexadecimal digits. -/
def codePoint (digits : Nat) : Reading Char := fun text =>
  match Text.readNumeral? 16 (text.take digits) with
  | some code =>
      if digits ≤ text.length ∧ code.isValidChar then
        some (Char.ofNat code, text.drop digits)
      else
        none
  | none => none

/-- What follows the backslash of an escape. -/
def escape : Reading Char := do
  match <- Reading.next with
  | 'b' => return '\x08'
  | 't' => return '\t'
  | 'n' => return '\n'
  | 'f' => return '\x0c'
  | 'r' => return '\r'
  | '"' => return '"'
  | '\\' => return '\\'
  | 'u' => codePoint 4
  | 'U' => codePoint 8
  | _ => failure

/-- One character between single quotes. -/
def literalItem : Reading (List Char) := do
  let c <- Reading.next
  if isTextual c && c != singleQuote then return [c] else failure

/-- One character between double quotes. -/
def basicItem : Reading (List Char) := do
  let c <- Reading.next
  if c == '\\' then
    return [<- escape]
  else if isTextual c && c != '"' then
    return [c]
  else
    failure

/-- The rest of an escaped line end, and all blanks after it. -/
def continuation : Reading Unit := do
  spaces
  newline
  discard (Reading.takeWhile (fun c => isSpace c || c == '\n' || c == '\r'))

/-- One line end, or one quote that does not close the string. -/
def lineOrQuote (quote : Char) : Reading (List Char) := do
  if (<- Reading.peek) == some quote then
    if <- Reading.skip [quote, quote, quote] then
      failure
    else
      return [<- Reading.next]
  else
    newline
    return ['\n']

/-- One piece of a literal string of several lines. -/
def literalLinesItem : Reading (List Char) :=
  literalItem <|> lineOrQuote singleQuote

/-- One piece of a basic string of several lines. -/
def basicLinesItem : Reading (List Char) :=
  (do Reading.expect ['\\']; continuation; return []) <|> basicItem <|> lineOrQuote '"'

/-- The end of a string of several lines, with the quotes before it. -/
def closingQuotes (quote : Char) : Reading (List Char) := do
  Reading.expect [quote, quote, quote]
  if <- Reading.skip [quote, quote] then
    return [quote, quote]
  else if <- Reading.skip [quote] then
    return [quote]
  else
    return []

/-- A string on one line, of the given quote and characters. -/
def stringOnLine (quote : Char) (item : Reading (List Char)) : Reading String := do
  Reading.expect [quote]
  let items <- item.many
  Reading.expect [quote]
  return String.ofList items.flatten

/-- A string of several lines, of the given quote and pieces. -/
def stringOnLines (quote : Char) (item : Reading (List Char)) : Reading String := do
  Reading.expect [quote, quote, quote]
  newline <|> pure ()
  let items <- item.many
  let quotes <- closingQuotes quote
  return String.ofList (items.flatten ++ quotes)

def string : Reading String := fun text =>
  match text with
  | '"' :: '"' :: '"' :: _ => stringOnLines '"' basicLinesItem text
  | '"' :: _ => stringOnLine '"' basicItem text
  | '\x27' :: '\x27' :: '\x27' :: _ => stringOnLines singleQuote literalLinesItem text
  | _ => stringOnLine singleQuote literalItem text

end Toml
end DalvikFold
