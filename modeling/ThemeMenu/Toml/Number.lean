import ThemeMenu.Toml.Text
import ThemeMenu.Toml.Value

/-!
# ThemeMenu.Toml.Number

Integers and floats. Single underscores may stand between digits. An integer is decimal, with an
optional sign and no leading zeros, or hexadecimal, octal or binary without a sign, and fits into
64 bits with sign. A float has a decimal integer in front and then a fraction, an exponent or
both; a float too large for the format is refused, unless it is negative.

* `Toml.integer?`, `Toml.float?`: the value of a whole token.
-/

namespace ThemeMenu
namespace Toml

/-- The digits of a run in which single underscores stand between digits. -/
def digitRun? (isDigit : Char → Bool) : List Char → Option (List Char)
  | [] => none
  | [c] => if isDigit c then some [c] else none
  | c :: '_' :: r =>
    if isDigit c then
      match digitRun? isDigit r with
      | some ds => some (c :: ds)
      | none => none
    else none
  | c :: r =>
    if isDigit c then
      match digitRun? isDigit r with
      | some ds => some (c :: ds)
      | none => none
    else none

def digitsValue (base : Nat) (ds : List Char) : Nat :=
  ds.foldl (fun n c => base * n + (hexDigit? c).getD 0) 0

def isDigitBelow (base : Nat) (c : Char) : Bool :=
  match hexDigit? c with
  | some d => decide (d < base)
  | none => false

/-- A sign in front; true for a minus. -/
def splitSign : List Char → Bool × List Char
  | '+' :: r => (false, r)
  | '-' :: r => (true, r)
  | r => (false, r)

/-- The digits of a decimal integer without sign. -/
def wholeDigits? : List Char → Option (List Char)
  | ['0'] => some ['0']
  | '0' :: _ => none
  | cs => digitRun? isDigit cs

/-- One more than the greatest integer. -/
def integerLimit : Nat := 9223372036854775808

/-- Reads a natural in a base other than ten. -/
def based? (base : Nat) (cs : List Char) : Option Int :=
  match digitRun? (isDigitBelow base) cs with
  | some ds =>
    if digitsValue base ds < integerLimit then some (digitsValue base ds) else none
  | none => none

def decimal? (cs : List Char) : Option Int :=
  match wholeDigits? (splitSign cs).2 with
  | some ds =>
    let n : Int := digitsValue 10 ds
    let z := if (splitSign cs).1 then -n else n
    if -(integerLimit : Int) ≤ z ∧ z < integerLimit then some z else none
  | none => none

def integer? : List Char → Option Int
  | '0' :: 'x' :: r => based? 16 r
  | '0' :: 'o' :: r => based? 8 r
  | '0' :: 'b' :: r => based? 2 r
  | cs => decimal? cs

/-- The exponent of a float; without one it is zero. -/
def exponent? : List Char → Option Int
  | [] => some 0
  | _ :: cs =>
    match digitRun? isDigit (splitSign cs).2 with
    | some ds =>
      let n : Int := digitsValue 10 ds
      some (if (splitSign cs).1 then -n else n)
    | none => none

/-- The digits after the point; without a point there are none. -/
def fraction? : List Char → Option (List Char)
  | [] => some []
  | _ :: cs => digitRun? isDigit cs

def isExponentMark (c : Char) : Bool := c == 'e' || c == 'E'

def beforeExponent (cs : List Char) : List Char := cs.takeWhile fun c => !isExponentMark c

def fromExponent (cs : List Char) : List Char := cs.dropWhile fun c => !isExponentMark c

def beforePoint (cs : List Char) : List Char := cs.takeWhile fun c => c != '.'

def fromPoint (cs : List Char) : List Char := cs.dropWhile fun c => c != '.'

/-- A float without its sign. One without point and exponent is no float. -/
def unsignedFloat? (negative : Bool) (cs : List Char) : Option Binary64 :=
  let mantissa := beforeExponent cs
  if (fromExponent cs).isEmpty && (fromPoint mantissa).isEmpty then none
  else
    match wholeDigits? (beforePoint mantissa), fraction? (fromPoint mantissa),
        exponent? (fromExponent cs) with
    | some whole, some fraction, some power =>
      some (.ofDecimal negative (digitsValue 10 (whole ++ fraction)) (power - fraction.length))
    | _, _, _ => none

def float? (cs : List Char) : Option Binary64 :=
  let negative := (splitSign cs).1
  match (splitSign cs).2 with
  | ['i', 'n', 'f'] => some (.infinite negative)
  | ['n', 'a', 'n'] => some .nan
  | body =>
    match unsignedFloat? negative body with
    | some (.infinite false) => none
    | x => x

end Toml
end ThemeMenu
