import ThemeMenu.Element.Select
import ThemeMenu.Html
import ThemeMenu.Log

/-!
# ThemeMenu.App.Control

How a select of the menu is shown. Each of its options becomes a choice, whose value is the
position of the option among the options; that value is what a change event carries. Other
elements in the menu are skipped with a warning.

* `Control.ofElement?`: the control for an element of the menu.
* `Control.html`: the control on screen.
-/

namespace ThemeMenu

structure Choice where
  value : Nat
  chosen : Bool
  text : String
deriving DecidableEq, Repr

structure Control where
  id : String
  choices : List Choice
deriving DecidableEq, Repr

namespace Choice

def html (c : Choice) : Html :=
  .element "option" [.value "value" (toString c.value), .flag "selected" c.chosen] [.text c.text]

/-- The choices for options that follow `k` others. -/
def ofOptions (k : Nat) : List Element → List Choice
  | [] => []
  | e :: es => ⟨k, e.isChosen, e.text.getD ""⟩ :: ofOptions (k + 1) es

end Choice

namespace Control

/-- Only a select has a control. -/
def ofElement? (e : Element) : Option Control :=
  if e.isSelect then some ⟨e.id.getD "", Choice.ofOptions 0 e.options⟩ else none

def skipLog (e : Element) : List Log.Line :=
  if e.isSelect then [] else [Log.warn ("Skipping <" ++ e.tag ++ "> in the menu")]

def html (c : Control) : Html :=
  .element "select" [.value "id" c.id, .value "class" "custom-select"]
    (c.choices.map Choice.html)

/-- What an element of the menu shows. -/
def htmlOf (e : Element) : List Html :=
  match ofElement? e with
  | some c => [c.html]
  | none => []

end Control
end ThemeMenu
