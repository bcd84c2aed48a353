/-!
# ThemeMenu.Number.Binary64

Double-precision numbers as exact values: a finite number is a significand times a power of two.
Reading a decimal rounds it to the nearest such number, a half to the even significand.

* `Binary64`: finite numbers, the infinities, and the one that is no number.
* `Binary64.ofDecimal`: the nearest number to a decimal.
* `roundHalfEven`: a quotient of naturals rounded to the nearest natural.
-/

namespace ThemeMenu

inductive Binary64 where
  | finite (negative : Bool) (significand : Nat) (exponent : Int)
  | infinite (negative : Bool)
  | nan
deriving DecidableEq, Repr

/-- The nearest natural to `a / b`; a half goes to the even neighbour. -/
def roundHalfEven (a b : Nat) : Nat :=
  let q := a / b
  let r := a % b
  if 2 * r < b then q
  else if b < 2 * r then q + 1
  else q + q % 2

namespace Binary64

/-- Two to the 52, the first bit of a significand of full length. -/
def leadingBit : Nat := 4503599627370496

/-- The least exponent a finite number has. -/
def minExponent : Int := -1074

/-- The greatest exponent a finite number has. -/
def maxExponent : Int := 971

/-- A ratio divided by a power of two. -/
def scaled (num den : Nat) (q : Int) : Nat × Nat :=
  if 0 ≤ q then (num, den * Nat.pow 2 q.toNat) else (num * Nat.pow 2 (-q).toNat, den)

/-- The exponent at which a positive ratio has 53 bits before the point, or the least one. -/
def exponentFor (num den : Nat) : Int :=
  let q := max ((num.log2 : Int) - den.log2 - 53) minExponent
  let s := scaled num den q
  if s.1 / s.2 < 2 * leadingBit then q else q + 1

/-- The nearest number to a positive ratio. -/
def ofRatio (negative : Bool) (num den : Nat) : Binary64 :=
  let q := exponentFor num den
  let s := scaled num den q
  let m := roundHalfEven s.1 s.2
  let r := if m < 2 * leadingBit then (m, q) else (m / 2, q + 1)
  if r.2 ≤ maxExponent then .finite negative r.1 r.2 else .infinite negative

/-- The nearest number to `digits` times ten to the `power`. Decimals that are far outside the
range are settled by their count of digits. -/
def ofDecimal (negative : Bool) (digits : Nat) (power : Int) : Binary64 :=
  let magnitude := (Nat.toDigits 10 digits).length + power
  if digits = 0 ∨ magnitude < -330 then .finite negative 0 minExponent
  else if 310 < magnitude then .infinite negative
  else if 0 ≤ power then ofRatio negative (digits * Nat.pow 10 power.toNat) 1
  else ofRatio negative digits (Nat.pow 10 (-power).toNat)

end Binary64
end ThemeMenu
