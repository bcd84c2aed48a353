/-!
# ThemeMenu.Toml.Printer

Writing documents that hold texts only: first fields of the document itself, then tables of
fields. Every text is a basic string, in which nothing but what has to be is escaped.

* `Toml.basicString`: a text between double quotes.
* `Toml.Line`: a line of such a document, a field or the header of a table.
* `Toml.Sheet`, `Toml.Sheet.print`: such a document, and its text.
-/

namespace ThemeMenu
namespace Toml

/-- A number below 2 to the 16 in hexadecimal, in capitals or in small letters. -/
def fourDigits (capital : Bool) (n : Nat) : List Char :=
  let ds := Nat.toDigits 16 n
  List.replicate (4 - ds.length) '0' ++ if capital then ds.map Char.toUpper else ds

/-- Quotes and backslashes are escaped, and the ASCII controls go by their number. -/
def escape (capital : Bool) (c : Char) : List Char :=
  if c = '"' then ['\\', '"']
  else if c = '\\' then ['\\', '\\']
  else if c.toNat < 0x20 ∨ c.toNat = 0x7f then '\\' :: 'u' :: fourDigits capital c.toNat
  else [c]

def basicString (capital : Bool) (s : String) : List Char :=
  '"' :: (s.toList.flatMap (escape capital) ++ ['"'])

inductive Line where
  | field (key value : String)
  | header (key : String)
deriving DecidableEq, Repr

def Line.chars (capital : Bool) : Line → List Char
  | .field key value => key.toList ++ ' ' :: '=' :: ' ' :: (basicString capital value ++ ['\n'])
  | .header key => '[' :: (key.toList ++ [']', '\n'])

/-- Fields of the document, and tables with their fields. -/
structure Sheet where
  texts : List (String × String)
  tables : List (String × List (String × String))
deriving DecidableEq, Repr

namespace Sheet

def fieldLines (fs : List (String × String)) : List Line := fs.map fun f => .field f.1 f.2

/-- The tables come last, because a field after a header belongs to the table. -/
def lines (s : Sheet) : List Line :=
  fieldLines s.texts ++ s.tables.flatMap fun t => .header t.1 :: fieldLines t.2

def print (capital : Bool) (s : Sheet) : String :=
  String.ofList (s.lines.flatMap (Line.chars capital))

end Sheet

end Toml
end ThemeMenu
