import ThemeMenu.Text.Record
import ThemeMenu.Theme

/-!
# ThemeMenu.Catalog

The names of the themes in the menu and the stylesheets that show them. A catalogue has exactly
one entry for each theme.

* `Catalog.entry`, `Catalog.entryAt?`: look-up by theme and by position.
* `Catalog.themeWithPath?`: the theme a stylesheet belongs to; when both themes share a path it is
  the light one.
-/

namespace ThemeMenu

/-- How a theme is called in the menu, and the stylesheet that shows it. -/
structure Entry where
  label : String
  path : String
deriving DecidableEq, Repr

namespace Entry

def light : Entry := ⟨"Light", "./css/light.css"⟩

def dark : Entry := ⟨"Dark", "./css/dark.css"⟩

def describe (e : Entry) : String :=
  record "ThemeOption" [("label", quote e.label), ("path", quote e.path)]

end Entry

structure Catalog where
  light : Entry := Entry.light
  dark : Entry := Entry.dark
deriving DecidableEq, Repr

namespace Catalog

def entry (c : Catalog) : Theme → Entry
  | .light => c.light
  | .dark => c.dark

def entryAt? (c : Catalog) (i : Nat) : Option Entry := (Theme.ofIndex? i).map c.entry

/-- Each theme with its entry, in menu order. -/
def entries (c : Catalog) : List (Theme × Entry) := Theme.all.map fun t => (t, c.entry t)

def themeWithPath? (c : Catalog) (path : String) : Option Theme :=
  Theme.all.find? fun t => (c.entry t).path = path

def describe (c : Catalog) : String :=
  record "ThemeCatalog" [("light", c.light.describe), ("dark", c.dark.describe)]

theorem themeWithPath?_eq_light_iff {c : Catalog} {path : String} :
    c.themeWithPath? path = some .light ↔ c.light.path = path := by
  by_cases h : c.light.path = path <;> by_cases h' : c.dark.path = path <;>
    simp [themeWithPath?, Theme.all, entry, h, h']

theorem themeWithPath?_eq_dark_iff {c : Catalog} {path : String} :
    c.themeWithPath? path = some .dark ↔ c.dark.path = path ∧ c.light.path ≠ path := by
  by_cases h : c.light.path = path <;> by_cases h' : c.dark.path = path <;>
    simp [themeWithPath?, Theme.all, entry, h, h']

end Catalog
end ThemeMenu
