/-!
# ThemeMenu.Config.Error

Why a settings document is refused: its text is not well formed, or a value in it has the wrong
shape. The second names the value that was found and what was expected.
-/

namespace ThemeMenu

inductive ConfigError where
  | syntaxError
  | dataError (message : String)
deriving DecidableEq, Repr

namespace ConfigError

def message : ConfigError → String
  | .syntaxError => "the text is not a well-formed document"
  | .dataError message => message

end ConfigError
end ThemeMenu
