import ThemeMenu.Config.Decode
import ThemeMenu.Chooser.Error

/-!
# ThemeMenu.App.Setup

The settings the application ships with, and how it reads settings. An error says which document
it is about and then why it was refused; the application itself falls back to the built-in values.

* `Setup.read`: reading a document, with its report.
* `Setup.shipped`: the settings of the application.
-/

namespace ThemeMenu
namespace Setup

/-- The document the application ships with. -/
def document : String :=
"# Element ids of the host page
menu_id = \"menu\"
selector_id = \"menu_select\"
stylesheet_id = \"color_css\"

[light]
label = \"Light\"
path = \"./css/light.css\"

[dark]
label = \"Dark\"
path = \"./css/dark.css\"
"

/-- A refused document. -/
structure Refusal where
  cause : ConfigError
deriving DecidableEq, Repr

namespace Refusal

/-- What was being done. -/
def context : String := "Parsing switcher.toml"

/-- The messages from the outermost to the cause. -/
def chain (r : Refusal) : List String :=
  [context, (ChooserError.config r.cause).message, r.cause.message]

/-- What stands before the message of the cause when the whole chain is shown. -/
def origin (r : Refusal) : String := context ++ ": " ++ (ChooserError.config r.cause).origin

def message (r : Refusal) : String := r.origin ++ r.cause.message

end Refusal

def read (text : String) : Except Refusal Config :=
  match Config.ofText text with
  | .ok c => .ok c
  | .error e => .error ⟨e⟩

def readLog (text : String) : List Log.Line :=
  match Config.ofText text with
  | .ok c =>
    Config.ofTextLog text ++
      [Log.debug ("Switcher config loaded, menu: #" ++ c.menuId ++ ", stylesheet: #"
        ++ c.stylesheetId)]
  | .error _ => []

/-- A document with its fallback. -/
def readOrDefault (text : String) : Config :=
  match read text with
  | .ok c => c
  | .error _ => {}

def readOrDefaultLog (text : String) : List Log.Line :=
  match read text with
  | .ok _ => readLog text
  | .error r =>
    [Log.error ("Error loading the switcher config, using defaults: " ++ r.message)]

def shipped : Config := readOrDefault document

def shippedLog : List Log.Line := readOrDefaultLog document

end Setup
end ThemeMenu
