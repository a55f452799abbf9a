namespace DalvikFold
namespace Toml

/-!
Values, and tables in the making.

A table is a list of entries in order of appearance.  What may still be added to
a table depends on how it came to be: a header may open every table that was
only passed through on the way to another one, a dotted key may extend only what
dotted keys have made, and an inline table is complete as it stands.
-/

/-- How a table came to be. -/
inductive TableOrigin where
  /-- On the way to the table of a header. -/
  | passage
  /-- On the way to the last part of a dotted key. -/
  | dottedKey
  /-- By a header of its own. -/
  | header
  /-- In braces, as a value. -/
  | braces
  deriving Repr, DecidableEq

/-- A value. -/
inductive Value where
  | string (text : String)
  | integer (number : Int)
  /-- A float, as the word of a double. -/
  | float (bits : BitVec 64)
  | boolean (truth : Bool)
  /-- A date or time, as it is written. -/
  | moment (text : String)
  | array (items : List Value)
  | table (origin : TableOrigin) (entries : List (String × Value))
  /-- The tables of doubled headers. -/
  | tables (elements : List (List (String × Value)))
  deriving Repr

def Value.isEmpty : Value -> Bool
  | .array [] => true
  | .table _ [] => true
  | _ => false

abbrev Entries := List (String × Value)

namespace Entries

/-- The entries with a key bound to a value, in the key's place if it has
one. -/
def put (key : String) (value : Value) : Entries -> Entries
  | [] => [(key, value)]
  | (other, old) :: rest =>
      if other = key then (key, value) :: rest else (other, old) :: put key value rest

/-- The entries with a value at the end of a dotted key.  The value's own key
is new, and all but the last table before it may have been made by a header. -/
def assign (value : Value) : List String -> Entries -> Option Entries
  | [], _ => none
  | [key], entries =>
      match entries.lookup key with
      | none => some (put key value entries)
      | some _ => none
  | key :: rest, entries =>
      let isLastTable := rest.length == 1
      match entries.lookup key with
      | none => (assign value rest []).map (fun inner => put key (.table .dottedKey inner) entries)
      | some (.table .dottedKey inner) =>
          (assign value rest inner).map (fun inner => put key (.table .dottedKey inner) entries)
      | some (.table .passage inner) =>
          if isLastTable then
            none
          else
            (assign value rest inner).map (fun inner => put key (.table .passage inner) entries)
      | some (.tables elements) =>
          match elements.getLast?, isLastTable with
          | some last, false =>
              (assign value rest last).map (fun last =>
                put key (.tables (elements.dropLast ++ [last])) entries)
          | _, _ => none
      | some _ => none

/-- The entries with a change at the end of a header's path, where the last
table of a doubled header stands for all of them. -/
def within (change : Entries -> Option Entries) : List String -> Entries -> Option Entries
  | [], entries => change entries
  | key :: rest, entries =>
      match entries.lookup key with
      | none => (within change rest []).map (fun inner => put key (.table .passage inner) entries)
      | some (.table .braces _) => none
      | some (.table origin inner) =>
          (within change rest inner).map (fun inner => put key (.table origin inner) entries)
      | some (.tables elements) =>
          match elements.getLast? with
          | some last =>
              (within change rest last).map (fun last =>
                put key (.tables (elements.dropLast ++ [last])) entries)
          | none => none
      | some _ => none

/-- The entries with a table opened by a header. -/
def openTable (key : String) (entries : Entries) : Option Entries :=
  match entries.lookup key with
  | none => some (put key (.table .header []) entries)
  | some (.table .passage inner) => some (put key (.table .header inner) entries)
  | some _ => none

/-- The entries with one more table opened by a doubled header. -/
def openElement (key : String) (entries : Entries) : Option Entries :=
  match entries.lookup key with
  | none => some (put key (.tables [[]]) entries)
  | some (.tables elements) => some (put key (.tables (elements ++ [[]])) entries)
  | some _ => none

/-- The entries that assignments make one after another. -/
def ofAssignments (assignments : List (List String × Value)) : Option Entries :=
  assignments.foldlM (fun entries (path, value) => assign value path entries) []

end Entries

end Toml
end DalvikFold
