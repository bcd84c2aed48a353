import ThemeMenu.Toml.Scan

/-!
# ThemeMenu.Toml.Text

The four notations for strings. A basic string stands between double quotes and knows escapes, a
literal string stands between single quotes and takes every character as it is; each has a form
between triple quotes that may run over several lines. In those a line feed right after the
opening is dropped, every line end counts as a line feed, and up to two quotes may stand before
the closing.

* `Toml.basic`, `Toml.literal`: the rest of a one-line string after its opening quote.
* `Toml.basicLines`, `Toml.literalLines`: the rest of a string over several lines.
* `Toml.text`: a string of any notation.
-/

namespace ThemeMenu
namespace Toml

def hexDigit? (c : Char) : Option Nat :=
  if '0' ≤ c ∧ c ≤ '9' then some (c.toNat - '0'.toNat)
  else if 'a' ≤ c ∧ c ≤ 'f' then some (c.toNat - 'a'.toNat + 10)
  else if 'A' ≤ c ∧ c ≤ 'F' then some (c.toNat - 'A'.toNat + 10)
  else none

def hexNumber? (acc : Nat) : List Char → Option Nat
  | [] => some acc
  | c :: cs =>
    match hexDigit? c with
    | some d => hexNumber? (16 * acc + d) cs
    | none => none

/-- The character with a number in hexadecimal; surrogates and numbers past the last character
have none. -/
def numbered? (digits : List Char) : Option Char :=
  match hexNumber? 0 digits with
  | some n => if n.isValidChar then some (Char.ofNat n) else none
  | none => none

/-- The escapes of one letter. -/
def escaped? : Char → Option Char
  | 'b' => some '\x08'
  | 't' => some '\t'
  | 'n' => some '\n'
  | 'f' => some '\x0c'
  | 'r' => some '\r'
  | '"' => some '"'
  | '\\' => some '\\'
  | _ => none

/-- Puts a character, if there is one, in front of what is read after it. -/
def before (c : Option Char) (rest : Option (List Char × List Char)) :
    Option (List Char × List Char) :=
  match c, rest with
  | some c, some (s, r) => some (c :: s, r)
  | _, _ => none

def basic : Reader (List Char)
  | [] => none
  | '"' :: r => some ([], r)
  | '\\' :: 'u' :: a :: b :: c :: d :: r => before (numbered? [a, b, c, d]) (basic r)
  | '\\' :: 'U' :: a :: b :: c :: d :: e :: f :: g :: h :: r =>
    before (numbered? [a, b, c, d, e, f, g, h]) (basic r)
  | '\\' :: c :: r => before (escaped? c) (basic r)
  | c :: r => if isPlain c then before (some c) (basic r) else none

def literal : Reader (List Char)
  | [] => none
  | '\x27' :: r => some ([], r)
  | c :: r => if isPlain c then before (some c) (literal r) else none

/-- Whether only spaces stand before the end of the line. -/
def endsLine (cs : List Char) : Bool := (newline? (skipSpaces cs)).isSome

/-- After a backslash at the end of a line, `trim` holds and all spaces and line ends are
dropped. -/
def basicLines (trim : Bool) : Reader (List Char)
  | [] => none
  | '"' :: '"' :: '"' :: '"' :: '"' :: r => some (['"', '"'], r)
  | '"' :: '"' :: '"' :: '"' :: r => some (['"'], r)
  | '"' :: '"' :: '"' :: r => some ([], r)
  | '\\' :: 'u' :: a :: b :: c :: d :: r =>
    before (numbered? [a, b, c, d]) (basicLines false r)
  | '\\' :: 'U' :: a :: b :: c :: d :: e :: f :: g :: h :: r =>
    before (numbered? [a, b, c, d, e, f, g, h]) (basicLines false r)
  | '\\' :: c :: r =>
    if endsLine (c :: r) then basicLines true r
    else before (escaped? c) (basicLines false r)
  | '\r' :: '\n' :: r => if trim then basicLines true r else before (some '\n') (basicLines false r)
  | c :: r =>
    if trim && (isSpace c || c == '\n') then basicLines true r
    else if isPlain c || c == '\n' then before (some c) (basicLines false r)
    else none

def literalLines : Reader (List Char)
  | [] => none
  | '\x27' :: '\x27' :: '\x27' :: '\x27' :: '\x27' :: r => some (['\x27', '\x27'], r)
  | '\x27' :: '\x27' :: '\x27' :: '\x27' :: r => some (['\x27'], r)
  | '\x27' :: '\x27' :: '\x27' :: r => some ([], r)
  | '\r' :: '\n' :: r => before (some '\n') (literalLines r)
  | c :: r => if isPlain c || c == '\n' then before (some c) (literalLines r) else none

/-- Drops the line end that may follow the opening of a string over several lines. -/
def opened (cs : List Char) : List Char := (newline? cs).getD cs

/-- The characters of a string of any notation. -/
def chars : Reader (List Char)
  | '"' :: '"' :: '"' :: r => basicLines false (opened r)
  | '"' :: r => basic r
  | '\x27' :: '\x27' :: '\x27' :: r => literalLines (opened r)
  | '\x27' :: r => literal r
  | _ => none

def text (cs : List Char) : Option (String × List Char) :=
  match chars cs with
  | some (s, r) => some (String.ofList s, r)
  | none => none

end Toml
end ThemeMenu
