import ThemeMenu.Config.Error
import ThemeMenu.Page.Error

/-!
# ThemeMenu.Chooser.Error

The errors of the menu, by where they come from. A message is the message of the cause after a
word on its origin.
-/

namespace ThemeMenu

inductive ChooserError where
  | page (cause : PageError)
  | config (cause : ConfigError)
deriving DecidableEq, Repr

namespace ChooserError

/-- What stands before the message of the cause. -/
def origin : ChooserError → String
  | .page _ => "Page Error: "
  | .config _ => "Config Error: "

def cause : ChooserError → String
  | .page e => e.message
  | .config e => e.message

def message (e : ChooserError) : String := e.origin ++ e.cause

end ChooserError
end ThemeMenu
