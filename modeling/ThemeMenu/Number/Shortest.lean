import ThemeMenu.Number.Binary64

/-!
# ThemeMenu.Number.Shortest

Decimal text of double-precision numbers: the fewest digits that read back as the same number,
among those the nearest to it, and of two equally near the greater. The text is always positional
and has a point.

* `Binary64.shortest`: the digits and their power of ten.
* `Binary64.text`: the text.
-/

namespace ThemeMenu
namespace Binary64

/-- Compares `c` times ten to the `k` with `x` times two to the `q`. -/
def compareScaled (c : Nat) (k : Int) (x : Nat) (q : Int) : Ordering :=
  compare (c * Nat.pow 10 k.toNat * Nat.pow 2 (-q).toNat)
    (x * Nat.pow 2 q.toNat * Nat.pow 10 (-k).toNat)

/-- Four times the significand of the lower end of the values that round to a number. Below a
power of two the numbers lie twice as close. -/
def lowerEnd (m : Nat) (q : Int) : Nat :=
  if m = leadingBit ∧ minExponent < q then 4 * m - 1 else 4 * m - 2

def upperEnd (m : Nat) : Nat := 4 * m + 2

/-- Whether a decimal rounds to the number; the ends do when the significand is even. -/
def readsBack (m : Nat) (q : Int) (c : Nat) (k : Int) : Bool :=
  let low := compareScaled c k (lowerEnd m q) (q - 2)
  let high := compareScaled c k (upperEnd m) (q - 2)
  if m % 2 = 0 then low != .lt && high != .gt else low == .gt && high == .lt

/-- The greatest multiple of ten to the `k` that is not above the number, by its factor. -/
def floorAt (m : Nat) (q k : Int) : Nat :=
  (m * Nat.pow 2 q.toNat * Nat.pow 10 (-k).toNat) / (Nat.pow 10 k.toNat * Nat.pow 2 (-q).toNat)

/-- The nearer of the two multiples around the number, if it reads back. -/
def candidate? (m : Nat) (q k : Int) : Option Nat :=
  let c := floorAt m q k
  match readsBack m q c k, readsBack m q (c + 1) k with
  | true, true => if compareScaled (2 * c + 1) k (2 * m) q == .gt then some c else some (c + 1)
  | true, false => some c
  | false, true => some (c + 1)
  | false, false => none

/-- Tries finer and finer powers of ten. -/
def shortestFrom (m : Nat) (q : Int) : Nat → Int → Nat × Int
  | 0, k => (floorAt m q k, k)
  | n + 1, k =>
    match candidate? m q k with
    | some c => (c, k)
    | none => shortestFrom m q n (k - 1)

/-- A power of ten above the number. -/
def powerAbove (m : Nat) (q : Int) : Int :=
  Int.fdiv (((m.log2 : Int) + q + 1) * 30103) 100000 + 2

/-- Seventeen digits always suffice, and the search starts at most four places above them. -/
def shortest (m : Nat) (q : Int) : Nat × Int :=
  if m = 0 then (0, 0) else shortestFrom m q 22 (powerAbove m q)

/-- Digits with a point, `k` places from their end; at least one digit stands on each side. -/
def positional (c : Nat) (k : Int) : String :=
  let ds := Nat.toDigits 10 c
  if 0 ≤ k then String.ofList (ds ++ List.replicate k.toNat '0' ++ ['.', '0'])
  else
    let places := (-k).toNat
    let padded := List.replicate (places + 1 - ds.length) '0' ++ ds
    let whole := padded.length - places
    String.ofList (padded.take whole ++ '.' :: padded.drop whole)

def sign (negative : Bool) : String := if negative then "-" else ""

def text : Binary64 → String
  | .finite negative m q =>
    let (c, k) := shortest m q
    sign negative ++ positional c k
  | .infinite negative => sign negative ++ "inf"
  | .nan => "NaN"

end Binary64
end ThemeMenu
