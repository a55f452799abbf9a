import DalvikFold.Toml.Statement

namespace DalvikFold
namespace Toml

/-!
Documents: statements from the first to the last, and the table they make.

Statements before the first header are about the outermost table.  A document
may start with a byte order mark.
-/

/-- A document up to some statement. -/
structure Document where
  /-- The path of the table in force. -/
  path : List String := []
  /-- The outermost table. -/
  entries : Entries := []

namespace Document

/-- The document with another table in force, which the change makes or opens
at the end of the path. -/
def openAt (document : Document) (change : String -> Entries -> Option Entries)
    (path : List String) : Option Document :=
  match path.getLast? with
  | some key =>
      (document.entries.within (change key) path.dropLast).map (fun entries =>
        { path := path, entries := entries })
  | none => none

/-- The document with one more statement. -/
def accept (document : Document) : Statement -> Option Document
  | .blank => some document
  | .assign path value =>
      (document.entries.within (Entries.assign value path) document.path).map (fun entries =>
        { document with entries := entries })
  | .openTable path => document.openAt Entries.openTable path
  | .openElement path => document.openAt Entries.openElement path

/-- The statements of a whole text. -/
def statements? (text : List Char) : Option (List Statement) :=
  match Reading.many Statement.read text with
  | some (statements, []) => some statements
  | _ => none

/-- The outermost table of a document. -/
def read? (source : String) : Option Entries :=
  let text := match source.toList with
    | '\ufeff' :: rest => rest
    | text => text
  do
    let statements <- statements? text
    let document <- statements.foldlM Document.accept { }
    return document.entries

end Document

end Toml
end DalvikFold
