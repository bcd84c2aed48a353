import ThemeMenu.Text.Record

/-!
# ThemeMenu.Page.Error

What can go wrong when a page is addressed by id. The id is quoted in every message, so that no
id can imitate the wording around it.

* `PageError.message`: the text shown to people.
* `PageError.describe`: the error in record notation.
-/

namespace ThemeMenu

inductive PageError where
  | elementNotFound (id : String)
  | notASelector (id : String)
  | optionOutOfRange (id : String) (index len : Nat)
deriving DecidableEq, Repr

namespace PageError

def message : PageError → String
  | .elementNotFound id => "Element with id " ++ quote id ++ " not found in the page"
  | .notASelector id => "Element with id " ++ quote id ++ " is not a selector"
  | .optionOutOfRange id index len =>
    "Selector " ++ quote id ++ " has " ++ toString len ++ " options, index " ++ toString index
      ++ " is out of range"

/-- The name of the cause. -/
def kind : PageError → String
  | .elementNotFound _ => "ElementNotFound"
  | .notASelector _ => "NotASelector"
  | .optionOutOfRange _ _ _ => "OptionOutOfRange"

def describe (e : PageError) : String :=
  record e.kind <|
    match e with
    | .elementNotFound id => [("id", quote id)]
    | .notASelector id => [("id", quote id)]
    | .optionOutOfRange id index len =>
      [("id", quote id), ("index", toString index), ("len", toString len)]

end PageError
end ThemeMenu
