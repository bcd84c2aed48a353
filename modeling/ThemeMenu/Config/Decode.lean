import ThemeMenu.Config.Basic
import ThemeMenu.Config.Error
import ThemeMenu.Log
import ThemeMenu.Number.Shortest
import ThemeMenu.Toml.Document

/-!
# ThemeMenu.Config.Decode

Settings from a TOML document. The document is laid over the built-in values: each field that is
present takes its value from the document, unknown keys are ignored. Keys are looked at in the
order in which they first appear, and the first one with a value of the wrong shape decides the
error.

* `Entry.ofValue`: an entry is a table with a label and a path, or an array that starts with them.
* `Config.ofFields`: the overlay.
* `Config.ofText`: from the text of a document.
-/

namespace ThemeMenu

open Toml (Value)

/-- The type of a value, as messages name it, with the value where it is short. -/
def foundType : Value → String
  | .string s => "string " ++ quote s
  | .integer n => "integer `" ++ toString n ++ "`"
  | .float x => "floating point `" ++ x.text ++ "`"
  | .boolean true => "boolean `true`"
  | .boolean false => "boolean `false`"
  | .moment => "map"
  | .array _ => "sequence"
  | .table _ => "map"

def invalidType (v : Value) (expected : String) : String :=
  "invalid type: " ++ foundType v ++ ", expected " ++ expected

def stringOf : Value → Except String String
  | .string s => .ok s
  | v => .error (invalidType v "a string")

namespace Entry

/-- What messages call an entry. -/
def typeName : String := "struct ThemeOption"

def tooShort (len : Nat) : String :=
  "invalid length " ++ toString len ++ ", expected " ++ typeName ++ " with 2 elements"

def missing (field : String) : String := "missing field `" ++ field ++ "`"

/-- Of two missing fields the label is named. -/
def ofParts : Option String → Option String → Except String Entry
  | some label, some path => .ok ⟨label, path⟩
  | none, _ => .error (missing "label")
  | some _, none => .error (missing "path")

/-- Reads on from the label and the path seen so far. -/
def ofFields (label path : Option String) : List (String × Value) → Except String Entry
  | [] => ofParts label path
  | (key, v) :: fields =>
    if key = "label" then
      match stringOf v with
      | .ok s => ofFields (some s) path fields
      | .error e => .error e
    else if key = "path" then
      match stringOf v with
      | .ok s => ofFields label (some s) fields
      | .error e => .error e
    else ofFields label path fields

/-- Items after the second are ignored. -/
def ofItems : List Value → Except String Entry
  | [] => .error (tooShort 0)
  | v :: vs =>
    match stringOf v with
    | .error e => .error e
    | .ok label =>
      match vs with
      | [] => .error (tooShort 1)
      | w :: _ =>
        match stringOf w with
        | .error e => .error e
        | .ok path => .ok ⟨label, path⟩

/-- A date or a time counts as a table without the fields of an entry. -/
def ofValue : Value → Except String Entry
  | .table fields => ofFields none none fields
  | .array vs => ofItems vs
  | .moment => ofFields none none []
  | v => .error (invalidType v typeName)

end Entry

namespace Config

/-- Takes one field of a document into the settings. -/
def take (c : Config) (key : String) (v : Value) : Except String Config :=
  if key = "menu_id" then (stringOf v).map fun s => { c with menuId := s }
  else if key = "selector_id" then (stringOf v).map fun s => { c with selectorId := s }
  else if key = "stylesheet_id" then (stringOf v).map fun s => { c with stylesheetId := s }
  else if key = "light" then (Entry.ofValue v).map fun e => { c with light := e }
  else if key = "dark" then (Entry.ofValue v).map fun e => { c with dark := e }
  else .ok c

/-- Lays a table over given settings. -/
def overlay (c : Config) : List (String × Value) → Except String Config
  | [] => .ok c
  | (key, v) :: fields =>
    match c.take key v with
    | .ok c => overlay c fields
    | .error e => .error e

def ofFields (fields : List (String × Value)) : Except String Config := overlay {} fields

/-- A text that is not well formed is refused before any value is looked at. -/
def ofText (text : String) : Except ConfigError Config :=
  match Toml.document? text with
  | none => .error .syntaxError
  | some fields =>
    match ofFields fields with
    | .ok c => .ok c
    | .error message => .error (.dataError message)

/-- What reading settings reports; a refused document reports nothing. -/
def ofTextLog (text : String) : List Log.Line :=
  match ofText text with
  | .ok c => [Log.debug ("Loaded switcher config: " ++ c.describe)]
  | .error _ => []

end Config
end ThemeMenu
