import DalvikFold.Text.Numeral

namespace DalvikFold
namespace Listing

/-!
String literals in a listing.

A literal stands between double quotes.  A backslash starts an escape: one
letter for a control character, a quote or a backslash, or the letter u and the
four-character numeral of a code point.
-/

/-- The character that a one-letter escape stands for. -/
def escapedChar? : Char -> Option Char
  | 'n' => some '\n'
  | 't' => some '\t'
  | 'r' => some '\r'
  | 'b' => some '\x08'
  | 'f' => some '\x0c'
  | '0' => some '\x00'
  | '"' => some '"'
  | '\x27' => some '\x27'
  | '\\' => some '\\'
  | _ => none

/-- The character with the given code point, surrogates excepted. -/
def scalar? (code : Nat) : Option Char :=
  if code.isValidChar then some (Char.ofNat code) else none

/-- The character that the numeral of a code point stands for.  The numeral may
start with a plus sign. -/
def codePoint? (numeral : List Char) : Option Char :=
  (Text.readUnsigned? 16 numeral).bind scalar?

/-- The text with its escapes replaced; none if an escape is malformed. -/
def unescape? : List Char -> Option (List Char)
  | [] => some []
  | '\\' :: 'u' :: a :: b :: c :: d :: rest =>
      match codePoint? [a, b, c, d] with
      | some decoded => (unescape? rest).map (decoded :: ·)
      | none => none
  | '\\' :: letter :: rest =>
      match escapedChar? letter with
      | some decoded => (unescape? rest).map (decoded :: ·)
      | none => none
  | ['\\'] => none
  | c :: rest => (unescape? rest).map (c :: ·)

/-- The text of a literal, without its quotes and with its escapes replaced. -/
def stringLiteral? : List Char -> Option (List Char)
  | '"' :: rest => if rest.getLast? = some '"' then unescape? rest.dropLast else none
  | _ => none

end Listing
end DalvikFold
