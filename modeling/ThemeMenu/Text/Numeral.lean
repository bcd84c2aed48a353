/-!
# ThemeMenu.Text.Numeral

Reading a machine-sized natural number from text. A numeral is an optional plus sign followed by
at least one ASCII digit; leading zeros are allowed, and a value past the largest 64-bit word is
refused rather than reduced.

* `Numeral.digits?`: the value of a digit sequence, of any length.
* `numeral?`: the whole rule.
-/

namespace ThemeMenu
namespace Numeral

/-- The largest value a numeral may have. -/
def limit : Nat := 18446744073709551615

def digitValue? (c : Char) : Option Nat :=
  if '0' ≤ c ∧ c ≤ '9' then some (c.toNat - '0'.toNat) else none

/-- Reads on from the value of the digits before. -/
def digitsFrom? (acc : Nat) : List Char → Option Nat
  | [] => some acc
  | c :: cs =>
    match digitValue? c with
    | some d => digitsFrom? (10 * acc + d) cs
    | none => none

def digits? : List Char → Option Nat
  | [] => none
  | cs => digitsFrom? 0 cs

def unsigned : List Char → List Char
  | '+' :: cs => cs
  | cs => cs

end Numeral

open Numeral in
def numeral? (s : String) : Option Nat :=
  match digits? (unsigned s.toList) with
  | some n => if n ≤ limit then some n else none
  | none => none

end ThemeMenu
