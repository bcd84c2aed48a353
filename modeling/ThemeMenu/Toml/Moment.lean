import ThemeMenu.Toml.Scan

/-!
# ThemeMenu.Toml.Moment

Dates and times. A date is a year, a month and a day; a time is hours, minutes and seconds with
an optional fraction; a date with a time may end in an offset from universal time. Each part is
held to its own range, whatever the others say.

* `Toml.date?`, `Toml.time?`: the rest after a date or a time in front.
* `Toml.isMoment`: whether a whole token is a date, a time or both.
-/

namespace ThemeMenu
namespace Toml

/-- Two digits whose value lies in a range. -/
def isTwoDigits (a b : Char) (low high : Nat) : Bool :=
  let n := 10 * (a.toNat - '0'.toNat) + (b.toNat - '0'.toNat)
  isDigit a && isDigit b && decide (low ≤ n) && decide (n ≤ high)

def date? : List Char → Option (List Char)
  | y₁ :: y₂ :: y₃ :: y₄ :: '-' :: m₁ :: m₂ :: '-' :: d₁ :: d₂ :: r =>
    if isDigit y₁ && isDigit y₂ && isDigit y₃ && isDigit y₄ && isTwoDigits m₁ m₂ 1 12
        && isTwoDigits d₁ d₂ 1 31 then some r else none
  | _ => none

/-- The rest after a fraction of a second, if there is one. -/
def secondsEnd? : List Char → Option (List Char)
  | '.' :: c :: r => if isDigit c then some (r.dropWhile isDigit) else none
  | '.' :: [] => none
  | r => some r

/-- The second 60 is allowed for leap seconds. -/
def time? : List Char → Option (List Char)
  | h₁ :: h₂ :: ':' :: m₁ :: m₂ :: ':' :: s₁ :: s₂ :: r =>
    if isTwoDigits h₁ h₂ 0 23 && isTwoDigits m₁ m₂ 0 59 && isTwoDigits s₁ s₂ 0 60 then
      secondsEnd? r
    else none
  | _ => none

/-- Nothing, the letter for universal time, or hours and minutes with a sign. -/
def isOffset : List Char → Bool
  | [] => true
  | [c] => c == 'Z' || c == 'z'
  | [s, h₁, h₂, ':', m₁, m₂] =>
    (s == '+' || s == '-') && isTwoDigits h₁ h₂ 0 23 && isTwoDigits m₁ m₂ 0 59
  | _ => false

def isTimeWithOffset (cs : List Char) : Bool :=
  match time? cs with
  | some r => isOffset r
  | none => false

def isMoment (cs : List Char) : Bool :=
  match date? cs with
  | some [] => true
  | some (c :: r) => (c == 'T' || c == 't') && isTimeWithOffset r
  | none =>
    match time? cs with
    | some r => r.isEmpty
    | none => false

end Toml
end ThemeMenu
