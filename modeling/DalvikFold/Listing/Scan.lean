import DalvikFold.Text.Blank

namespace DalvikFold
namespace Listing

/-!
Scanning a line for its comment and its commas.

Both scans go by the same quotation state: inside a string literal a backslash
escapes the next character, and neither a number sign nor a comma means
anything there.  A comma separates operands only outside all braces and
parentheses as well.
-/

/-- Where a scan stands with respect to string literals. -/
inductive Quotation where
  /-- Outside of every literal. -/
  | outside
  /-- Inside a literal. -/
  | inside
  /-- Inside a literal, just after a backslash. -/
  | escaped
  deriving Repr, DecidableEq

/-- The state after one more character. -/
def Quotation.step (state : Quotation) (c : Char) : Quotation :=
  match state with
  | .outside => if c = '"' then .inside else .outside
  | .inside => if c = '\\' then .escaped else if c = '"' then .outside else .inside
  | .escaped => .inside

/-- The text up to the number sign that starts its comment. -/
def stripCommentFrom : Quotation -> List Char -> List Char
  | _, [] => []
  | state, c :: rest =>
      if c = '#' ∧ state = .outside then
        []
      else
        c :: stripCommentFrom (state.step c) rest

def stripComment (line : List Char) : List Char :=
  stripCommentFrom .outside line

/-- The depth of brackets after one more character.  A bracket that closes
nothing is ignored. -/
def depthAfter (depth : Nat) (c : Char) : Nat :=
  if c = '\x7b' ∨ c = '(' then depth + 1
  else if c = '\x7d' ∨ c = ')' then depth - 1
  else depth

/-- The text between separating commas. -/
def segmentsFrom : Quotation -> Nat -> List Char -> List (List Char)
  | _, _, [] => [[]]
  | state, depth, c :: rest =>
      if c = ',' ∧ state = .outside ∧ depth = 0 then
        [] :: segmentsFrom .outside 0 rest
      else
        let depthNext := if state = .outside then depthAfter depth c else depth
        match segmentsFrom (state.step c) depthNext rest with
        | [] => [[c]]
        | first :: others => (c :: first) :: others

/-- The trimmed texts of the operands of a line.  A comma at the end separates
nothing, and a text without operands has none. -/
def segments (text : List Char) : List (List Char) :=
  let trimmed := (segmentsFrom .outside 0 text).map Text.trim
  if trimmed.getLast? = some [] then trimmed.dropLast else trimmed

end Listing
end DalvikFold
