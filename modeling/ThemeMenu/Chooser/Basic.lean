import ThemeMenu.Config.Basic
import ThemeMenu.Log
import ThemeMenu.Page.Basic
import ThemeMenu.Chooser.Error

/-!
# ThemeMenu.Chooser.Basic

The theme chooser: a select in the menu of a page, with one option for each theme, and the link to
the stylesheet of the theme in use. All elements belong to the page; of its own the chooser has
its settings, the theme in use, and whether its select is in place.

* `Chooser.install`: puts the select into the menu, the first time it is called.
* `Chooser.change`: shows the theme whose option was picked, if the position belongs to one.
* `Chooser.apply`: shows a theme.

Each is a `Step` of the chooser. The page goes along: when an operation of the page fails, the
chooser has the page that this operation left.
-/

namespace ThemeMenu

structure Chooser (π : Type) where
  page : π
  config : Config := {}
  /-- The theme in use. -/
  selected : Theme := .light
  /-- Whether the select is in place. -/
  installed : Bool := false
deriving DecidableEq

namespace Chooser

variable {π : Type}

def catalog (s : Chooser π) : Catalog := s.config.catalog

def optionFor (label : String) (chosen : Bool) : Element :=
  { tag := "option", text := some label,
    attributes := if chosen then ⟨[("selected", "")]⟩ else {} }

/-- A select with one option for each theme, the given theme chosen. -/
def selectFor (c : Config) (chosen : Theme) : Element :=
  { tag := "select", id := some c.selectorId,
    children := c.catalog.entries.map fun (t, e) => optionFor e.label (t = chosen) }

variable [Page π]

/-- The theme whose stylesheet the page links; a page that links no theme counts as light. -/
def linkedTheme (s : Chooser π) : Theme :=
  match Page.getAttribute s.page s.config.stylesheetId "href" with
  | .ok (some href) => (s.catalog.themeWithPath? href).getD .light
  | .ok none => .light
  | .error _ => .light

/-- A page without the stylesheet link is worth a warning. -/
def linkedThemeLog (s : Chooser π) : List Log.Line :=
  match Page.getAttribute s.page s.config.stylesheetId "href" with
  | .ok _ => []
  | .error e => [Log.warn ("Can't read the initial stylesheet: " ++ e.message)]

/-- Performs an operation of the page. -/
def onPage {α : Type} (f : π → Step π PageError α) : Routine (Chooser π) ChooserError α := fun s =>
  let u := f s.page
  ⟨u.result.mapError .page, { s with page := u.after }, u.logs⟩

def install (s : Chooser π) : Step (Chooser π) ChooserError Unit :=
  Routine.run s do
    if s.installed then
      .report [Log.debug "Theme selector already in the page, skipping"]
    else
      let theme := s.linkedTheme
      .report s.linkedThemeLog
      onPage (Page.appendChild · s.config.menuId (selectFor s.config theme))
      .modify ({ · with selected := theme, installed := true })
      .report [Log.info ("Theme selector added to #" ++ s.config.menuId ++ " with " ++ theme.name
        ++ " selected")]

/-- Links the stylesheet of a theme. -/
def applying (theme : Theme) : Routine (Chooser π) ChooserError Unit := do
  let s ← .get
  onPage (Page.setAttribute · s.config.stylesheetId "href" (s.catalog.entry theme).path)
  .modify ({ · with selected := theme })

def apply (s : Chooser π) (theme : Theme) : Step (Chooser π) ChooserError Unit :=
  Routine.run s (applying theme)

def change (s : Chooser π) (index : Nat) : Step (Chooser π) ChooserError (Option Theme) :=
  Routine.run s do
    match Theme.ofIndex? index with
    | none =>
      .report [Log.debug ("No theme at index " ++ toString index ++ ", ignoring")]
      return none
    | some theme =>
      .report [Log.info (s.catalog.entry theme).label]
      applying theme
      return some theme

end Chooser
end ThemeMenu
