import ThemeMenu.Toml.Draft

/-!
# ThemeMenu.Toml.Document

Documents: the text is read into statements, and the statements are carried out on an empty table.

* `Toml.document?`: the table of a document.
-/

namespace ThemeMenu
namespace Toml

/-- The table of a document, or nothing when the text is not well formed. -/
def document? (text : String) : Option (List (String × Value)) :=
  match statements? text with
  | some ss => build? ss
  | none => none

end Toml
end ThemeMenu
