import ThemeMenu.Number.Binary64

/-!
# ThemeMenu.Toml.Value

The values of a TOML document, and tables as lists of fields in the order in which their keys
first appear.

* `Toml.Value`: a date or a time is a value without further content here.
* `Toml.lookup?`, `Toml.alter?`, `Toml.remove`: tables by key.
-/

namespace ThemeMenu
namespace Toml

inductive Value where
  | string (s : String)
  | integer (n : Int)
  | float (x : Binary64)
  | boolean (b : Bool)
  | moment
  | array (items : List Value)
  | table (fields : List (String × Value))

variable {β : Type}

def lookup? (key : String) : List (String × β) → Option β
  | [] => none
  | (k, v) :: fields => if k = key then some v else lookup? key fields

/-- Rewrites the field with a key in place, or adds one at the end. `f` gets what is there. -/
def alter? (key : String) (f : Option β → Option β) : List (String × β) → Option (List (String × β))
  | [] =>
    match f none with
    | some v => some [(key, v)]
    | none => none
  | (k, v) :: fields =>
    if k = key then
      match f (some v) with
      | some v => some ((k, v) :: fields)
      | none => none
    else
      match alter? key f fields with
      | some fields => some ((k, v) :: fields)
      | none => none

/-- Adds a field at the end; a key that is there already is refused. -/
def insertNew? (key : String) (v : β) (fields : List (String × β)) : Option (List (String × β)) :=
  match lookup? key fields with
  | none => some (fields ++ [(key, v)])
  | some _ => none

def remove (key : String) (fields : List (String × β)) : List (String × β) :=
  fields.filter fun f => decide (f.1 ≠ key)

end Toml
end ThemeMenu
