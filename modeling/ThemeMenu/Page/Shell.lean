import ThemeMenu.Config.Basic
import ThemeMenu.Page.Basic

/-!
# ThemeMenu.Page.Shell

The page of the application itself, reduced to the two elements that can change: the menu
container and the stylesheet link. Only these two can be addressed; what is added to the menu
cannot. If both have the same id, the menu is meant.

* `Shell.ofConfig`: the page an application starts with, showing the light theme.
* `Shell.inMenu`, `Shell.href`: what is on screen.
* The instance of `Page`: the application's page can host the menu.
-/

namespace ThemeMenu

structure Shell where
  menu : Element
  link : Element
deriving DecidableEq

namespace Shell

def ofConfig (c : Config) : Shell where
  menu := { tag := "div", id := some c.menuId }
  link :=
    { tag := "link", id := some c.stylesheetId,
      attributes := ⟨[("rel", "stylesheet"), ("href", c.light.path)]⟩ }

def menuId (p : Shell) : String := p.menu.id.getD ""

def inMenu (p : Shell) : List Element := p.menu.children

def linkId (p : Shell) : String := p.link.id.getD ""

def href (p : Shell) : String := (p.link.attribute? "href").getD ""

def element? (p : Shell) (id : String) : Option Element :=
  if p.menu.id = some id then some p.menu
  else if p.link.id = some id then some p.link
  else none

def update? (p : Shell) (id : String) (f : Element → Element) : Option Shell :=
  if p.menu.id = some id then some { p with menu := f p.menu }
  else if p.link.id = some id then some { p with link := f p.link }
  else none

theorem isSome_update? (p : Shell) (id : String) (f : Element → Element) :
    (p.update? id f).isSome = (p.element? id).isSome := by
  unfold update? element?
  repeat' split
  all_goals rfl

instance : Page Shell where
  element? := element?
  update? := update?
  isSome_update? := isSome_update?

end Shell
end ThemeMenu
