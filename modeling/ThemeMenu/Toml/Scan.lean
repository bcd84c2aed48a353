/-!
# ThemeMenu.Toml.Scan

Characters and blanks of TOML. A reader takes the characters that are left and answers what it
read together with the characters after it, or nothing when the text is not well formed.

* `Toml.Reader`: the type of readers.
* `Toml.skipSpaces`, `Toml.skipBlanks`: what may stand between tokens in a line, and in an array.
* `Toml.newline?`, `Toml.lineEnd?`: the end of a line, the latter with blanks and a comment.
-/

namespace ThemeMenu
namespace Toml

abbrev Reader (α : Type) : Type := List Char → Option (α × List Char)

def isSpace (c : Char) : Bool := c == ' ' || c == '\t'

def isDigit (c : Char) : Bool := decide ('0' ≤ c) && decide (c ≤ '9')

/-- Tab, printable ASCII and everything above ASCII. -/
def isPlain (c : Char) : Bool :=
  c == '\t' || (decide (' ' ≤ c) && c != '\x7f')

def isBareKey (c : Char) : Bool := c.isAlphanum || c == '_' || c == '-'

/-- The characters of numbers, dates, times and the words for truth values. -/
def isToken (c : Char) : Bool :=
  c.isAlphanum || c == '_' || c == '-' || c == '+' || c == '.' || c == ':'

def skipSpaces (cs : List Char) : List Char := cs.dropWhile isSpace

/-- A line feed, alone or after a carriage return. -/
def newline? : List Char → Option (List Char)
  | '\n' :: r => some r
  | '\r' :: '\n' :: r => some r
  | _ => none

/-- The rest of a comment. -/
def skipComment (cs : List Char) : List Char := cs.dropWhile isPlain

/-- The end of a line, or of the text. -/
def lineBreak? : List Char → Option (List Char)
  | [] => some []
  | cs => newline? cs

def lineEnd? (cs : List Char) : Option (List Char) :=
  match skipSpaces cs with
  | '#' :: r => lineBreak? (skipComment r)
  | r => lineBreak? r

mutual

/-- Spaces, line ends and comments. -/
def skipBlanks : List Char → List Char
  | [] => []
  | '\r' :: '\n' :: r => skipBlanks r
  | c :: r =>
    if c = '#' then skipBlanksInComment r
    else if c = ' ' ∨ c = '\t' ∨ c = '\n' then skipBlanks r
    else c :: r

def skipBlanksInComment : List Char → List Char
  | [] => []
  | '\r' :: '\n' :: r => skipBlanks r
  | c :: r =>
    if isPlain c then skipBlanksInComment r
    else if c = '\n' then skipBlanks r
    else c :: r

end

end Toml
end ThemeMenu
