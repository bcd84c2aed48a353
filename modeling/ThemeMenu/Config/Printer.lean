import ThemeMenu.Config.Basic
import ThemeMenu.Toml.Printer

/-!
# ThemeMenu.Config.Printer

Settings as a TOML document: the ids as lines of a key and a basic string, then each catalogue
entry as a table with a label and a path. Any selection of the five fields can be written.

* `Config.Field`: the fields.
* `Config.sheet`, `Config.print`: the document with the selected fields, and its text.
* `Config.only`: the settings such a document stands for, the others at their built-in values.
-/

namespace ThemeMenu

/-- The fields of the table of an entry. -/
def Entry.fields (e : Entry) : List (String × String) := [("label", e.label), ("path", e.path)]

namespace Config

inductive Field where
  | menuId
  | selectorId
  | stylesheetId
  | light
  | dark
deriving DecidableEq, Repr

def Field.key : Field → String
  | .menuId => "menu_id"
  | .selectorId => "selector_id"
  | .stylesheetId => "stylesheet_id"
  | .light => "light"
  | .dark => "dark"

def ids (c : Config) : List (Field × String) :=
  [(.menuId, c.menuId), (.selectorId, c.selectorId), (.stylesheetId, c.stylesheetId)]

def entries (c : Config) : List (Field × Entry) := [(.light, c.light), (.dark, c.dark)]

def sheet (selected : Field → Bool) (c : Config) : Toml.Sheet where
  texts := (c.ids.filter fun f => selected f.1).map fun f => (f.1.key, f.2)
  tables := (c.entries.filter fun f => selected f.1).map fun f => (f.1.key, f.2.fields)

/-- The text of the selected fields; the numbers of controls in capitals or in small letters. -/
def print (capital : Bool) (selected : Field → Bool) (c : Config) : String :=
  (c.sheet selected).print capital

def only (selected : Field → Bool) (c : Config) : Config :=
  let d : Config := {}
  { menuId := if selected .menuId then c.menuId else d.menuId
    selectorId := if selected .selectorId then c.selectorId else d.selectorId
    stylesheetId := if selected .stylesheetId then c.stylesheetId else d.stylesheetId
    light := if selected .light then c.light else d.light
    dark := if selected .dark then c.dark else d.dark }

end Config
end ThemeMenu
