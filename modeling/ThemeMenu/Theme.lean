/-!
# ThemeMenu.Theme

Themes: light and dark. The menu lists them in this order, and the position of an option stands
for its theme.

* `Theme.index` and `Theme.ofIndex?`: positions, inverse to each other (`ofIndex?_eq_some_iff`).
-/

namespace ThemeMenu

inductive Theme where
  | light
  | dark
deriving DecidableEq, Repr, Inhabited

namespace Theme

/-- All themes, in menu order. -/
def all : List Theme := [.light, .dark]

def index : Theme → Nat
  | .light => 0
  | .dark => 1

/-- The theme at a position of the menu; no theme stands past the second position. -/
def ofIndex? (i : Nat) : Option Theme := all[i]?

def name : Theme → String
  | .light => "light"
  | .dark => "dark"

/-- The name with a capital, as record notation shows it. -/
def title : Theme → String
  | .light => "Light"
  | .dark => "Dark"

theorem ofIndex?_index (t : Theme) : ofIndex? t.index = some t := by cases t <;> rfl

theorem ofIndex?_eq_some_iff {i : Nat} {t : Theme} : ofIndex? i = some t ↔ i = t.index := by
  constructor
  · intro h
    match i with
    | 0 => cases t <;> simp_all [ofIndex?, all, index]
    | 1 => cases t <;> simp_all [ofIndex?, all, index]
    | n + 2 => simp [ofIndex?, all] at h
  · rintro rfl; exact ofIndex?_index t

theorem ofIndex?_eq_none_iff {i : Nat} : ofIndex? i = none ↔ 2 ≤ i :=
  List.getElem?_eq_none_iff

end Theme
end ThemeMenu
