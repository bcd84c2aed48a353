/-!
# ThemeMenu.Log

What an operation reports while it works. Lines are values that an operation returns beside its
result, in the order in which they are written.

* `Log.Line`: a level and a text.
* `Log.debug`, `Log.info`, `Log.warn`, `Log.error`: a line of each level.
-/

namespace ThemeMenu
namespace Log

inductive Level where
  | debug
  | info
  | warn
  | error
deriving DecidableEq, Repr

structure Line where
  level : Level
  text : String
deriving DecidableEq, Repr

def debug (text : String) : Line := ⟨.debug, text⟩
def info (text : String) : Line := ⟨.info, text⟩
def warn (text : String) : Line := ⟨.warn, text⟩
def error (text : String) : Line := ⟨.error, text⟩

end Log
end ThemeMenu
