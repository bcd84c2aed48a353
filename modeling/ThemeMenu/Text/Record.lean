import ThemeMenu.Text.Quoted

/-!
# ThemeMenu.Text.Record

One-line notation for structured values, as log lines and messages show them: a record is its
name and its fields between braces, a list stands between brackets, an optional text is `None` or
its quoted form between the parentheses of `Some`.

* `record`, `listing`, `optional`: the three forms.
-/

namespace ThemeMenu

/-- Fields keep the order in which they are given. -/
def record (name : String) (fields : List (String × String)) : String :=
  name ++ " \x7b " ++ ", ".intercalate (fields.map fun f => f.1 ++ ": " ++ f.2) ++ " \x7d"

def listing (items : List String) : String :=
  "[" ++ ", ".intercalate items ++ "]"

def optional : Option String → String
  | none => "None"
  | some s => "Some(" ++ quote s ++ ")"

end ThemeMenu
