import DalvikFold.Toml.DateTime
import DalvikFold.Toml.Number
import DalvikFold.Toml.Quoted
import DalvikFold.Toml.Value

namespace DalvikFold
namespace Toml

/-!
Statements: assignments, headers and blank lines.

Arrays and inline tables hold values, and values may be nested to a limited
depth.  The limit is the recursion argument of the reading, so that a value is
read by recursion on the depth that is left.
-/

/-- The number of arrays and inline tables that may stand inside one another. -/
def depthLimit : Nat := 79

/-- The number of parts that a dotted key may have. -/
def keyLimit : Nat := 79

def isBareKeyCharacter (c : Char) : Bool :=
  c.isAlphanum || c == '_' || c == '-'

def keyPart : Reading String := do
  match <- Reading.peek with
  | some '"' => stringOnLine '"' basicItem
  | some '\x27' => stringOnLine singleQuote literalItem
  | _ =>
      let bare <- Reading.takeWhile isBareKeyCharacter
      if bare.isEmpty then failure
      return String.ofList bare

def spacedKeyPart : Reading String := do
  spaces
  let part <- keyPart
  spaces
  return part

/-- A key: parts with dots between them. -/
def key : Reading (List String) := do
  let first <- spacedKeyPart
  let others <- Reading.many (do Reading.expect ['.']; spacedKeyPart)
  if keyLimit < others.length + 1 then failure
  return first :: others

/-- The characters of a number or a word that stands for a value. -/
def isWordCharacter (c : Char) : Bool :=
  c.isAlphanum || c == '_' || c == '-' || c == '+' || c == '.'

/-- The value that a word stands for. -/
def wordValue? (word : List Char) : Option Value :=
  match String.ofList word with
  | "true" => some (.boolean true)
  | "false" => some (.boolean false)
  | _ => (integer? word).map .integer <|> (float? word).map .float

/-- A value that holds no other values. -/
def simpleValue : Reading Value := do
  match <- Reading.peek with
  | some '"' => return .string (<- string)
  | some '\x27' => return .string (<- string)
  | _ => (do return .moment (<- momentText)) <|> (do
      let word <- Reading.takeWhile isWordCharacter
      match wordValue? word with
      | some value => return value
      | none => failure)

/-- A key and its value. -/
def assignment (value : Reading Value) : Reading (List String × Value) := do
  let path <- key
  Reading.expect ['=']
  spaces
  return (path, <- value)

/-- Items with commas between them, none at all being allowed. -/
def commaSeparated {item : Type} (reading : Reading item) : Reading (List item) :=
  (do
    let first <- reading
    let others <- Reading.many (do Reading.expect [',']; reading)
    return first :: others) <|> pure []

/-- An array; a comma may follow its last item. -/
def array (value : Reading Value) : Reading Value := do
  Reading.expect ['[']
  let items <- commaSeparated (do gap; let item <- value; gap; return item)
  unless items.isEmpty do discard (Reading.skip [','])
  gap
  Reading.expect [']']
  return .array items

def inlineTable (value : Reading Value) : Reading Value := do
  Reading.expect ['\x7b']
  let assignments <- commaSeparated (do let item <- assignment value; spaces; return item)
  spaces
  Reading.expect ['\x7d']
  match Entries.ofAssignments assignments with
  | some entries => return .table .braces entries
  | none => failure

/-- A value of the given depth at most. -/
def value : Nat -> Reading Value
  | 0 => simpleValue
  | depth + 1 => do
      match <- Reading.peek with
      | some '[' => array (value depth)
      | some '\x7b' => inlineTable (value depth)
      | _ => simpleValue

/-- What a line, or several lines taken up by one value, say. -/
inductive Statement where
  /-- Nothing. -/
  | blank
  /-- A key of the table in force has a value. -/
  | assign (path : List String) (value : Value)
  /-- A table is in force from here on. -/
  | openTable (path : List String)
  /-- One more table of those with the same doubled header is in force. -/
  | openElement (path : List String)
  deriving Repr

namespace Statement

def header : Reading Statement := do
  if <- Reading.skip ['[', '['] then
    let path <- key
    Reading.expect [']', ']']
    return .openElement path
  else
    Reading.expect ['[']
    let path <- key
    Reading.expect [']']
    return .openTable path

/-- One statement with the end of its line.  Nothing is left to be read at the
end of the text. -/
def read : Reading Statement := do
  if (<- Reading.peek).isNone then failure
  spaces
  let statement <- match <- Reading.peek with
    | none => pure .blank
    | some '#' => pure .blank
    | some '\r' => pure .blank
    | some '\n' => pure .blank
    | some '[' => header
    | some _ =>
        let (path, value) <- assignment (value depthLimit)
        pure (.assign path value)
  lineEnd
  return statement

end Statement

end Toml
end DalvikFold
