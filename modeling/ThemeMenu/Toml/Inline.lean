import ThemeMenu.Toml.Key
import ThemeMenu.Toml.Value

/-!
# ThemeMenu.Toml.Inline

Inline tables, put together from their fields. Tables made by dotted keys may be added to by
further dotted keys; a table that was given as a value is complete.

* `Toml.Inline`: what stands under a key of an inline table under construction.
* `Toml.insertInline?`: what one field does to the table.
* `Toml.inlineTable?`: from fields to the finished table.
-/

namespace ThemeMenu
namespace Toml

/-- A value, or a table that dotted keys made. -/
inductive Inline where
  | value (v : Value)
  | dotted (fields : List (String × Inline))

/-- Puts a value under a dotted key, making the tables that are missing. -/
def insertInline? (v : Value) : List String → String → List (String × Inline) →
    Option (List (String × Inline))
  | [], key, fs => insertNew? key (.value v) fs
  | p :: ps, key, fs =>
    alter? p (fun found =>
      match found with
      | none => (insertInline? v ps key []).map .dotted
      | some (.dotted sub) => (insertInline? v ps key sub).map .dotted
      | some (.value _) => none) fs

mutual

def Inline.toValue : Inline → Value
  | .value v => v
  | .dotted fields => .table (inlineFields fields)

def inlineFields : List (String × Inline) → List (String × Value)
  | [] => []
  | (k, i) :: fields => (k, i.toValue) :: inlineFields fields

end

def inlineTable? (fs : List (KeyPath × Value)) : Option (List (String × Value)) :=
  match fs.foldlM (fun table f => insertInline? f.2 f.1.parents f.1.last table) [] with
  | some table => some (inlineFields table)
  | none => none

end Toml
end ThemeMenu
