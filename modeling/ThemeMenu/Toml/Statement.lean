import ThemeMenu.Toml.Reader

/-!
# ThemeMenu.Toml.Statement

The lines of a document. Each line that says something is a statement: a key with its value, the
header of a table, or the header of one more table in an array of tables.

* `Toml.Statement`, `Toml.statement`: a statement and its reader.
* `Toml.statements?`: all statements of a text, or nothing when the text is not well formed.
-/

namespace ThemeMenu
namespace Toml

inductive Statement where
  /-- A key with its value, in the current table. -/
  | assign (path : KeyPath) (value : Value)
  /-- The header of a table. -/
  | header (path : KeyPath)
  /-- The header of one more table in an array of tables. -/
  | item (path : KeyPath)

/-- Reads one statement, up to the blanks before the end of its line. -/
def statement : List Char → Option (Statement × List Char)
  | '[' :: '[' :: r =>
    match keyPath keyLimit r with
    | some (p, ']' :: ']' :: r) => some (.item p, r)
    | _ => none
  | '[' :: r =>
    match keyPath keyLimit r with
    | some (p, ']' :: r) => some (.header p, r)
    | _ => none
  | cs =>
    match keyValue (value depthLimit) cs with
    | some ((p, v), r) => some (.assign p v, r)
    | none => none

/-- Reads lines; the number bounds their count. -/
def lines? : Nat → List Char → Option (List Statement)
  | 0, _ => none
  | n + 1, cs =>
    match skipSpaces cs with
    | [] => some []
    | '#' :: r =>
      match lineBreak? (skipComment r) with
      | some r => lines? n r
      | none => none
    | cs =>
      match newline? cs with
      | some r => lines? n r
      | none =>
        match statement cs with
        | some (s, r) =>
          match lineEnd? r with
          | some r =>
            match lines? n r with
            | some ss => some (s :: ss)
            | none => none
          | none => none
        | none => none

/-- A byte order mark may stand in front. -/
def withoutMark : List Char → List Char
  | '\ufeff' :: r => r
  | cs => cs

def statements? (text : String) : Option (List Statement) :=
  lines? (text.length + 1) (withoutMark text.toList)

end Toml
end ThemeMenu
