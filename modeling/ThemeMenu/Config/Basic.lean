import ThemeMenu.Catalog

/-!
# ThemeMenu.Config.Basic

Settings: under which ids a page keeps what the chooser needs, and the two entries of the
catalogue. A field that is not given has a built-in value.
-/

namespace ThemeMenu

structure Config where
  /-- Where the select goes. -/
  menuId : String := "menu"
  /-- The id of the select itself. -/
  selectorId : String := "menu_select"
  /-- The link to the stylesheet in use. -/
  stylesheetId : String := "color_css"
  light : Entry := Entry.light
  dark : Entry := Entry.dark
deriving DecidableEq, Repr

namespace Config

def catalog (c : Config) : Catalog := ⟨c.light, c.dark⟩

def describe (c : Config) : String :=
  record "SwitcherConfig"
    [("menu_id", quote c.menuId), ("selector_id", quote c.selectorId),
      ("stylesheet_id", quote c.stylesheetId), ("light", c.light.describe),
      ("dark", c.dark.describe)]

end Config
end ThemeMenu
