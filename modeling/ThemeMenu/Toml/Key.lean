import ThemeMenu.Toml.Text

/-!
# ThemeMenu.Toml.Key

Keys. A key is bare or a one-line string; a dotted key goes through tables, and spaces may stand
around its dots.

* `Toml.KeyPath`, `Toml.keyPath`: dotted keys and their reader.
* `Toml.keyLimit`: how many parts a key may have.
-/

namespace ThemeMenu
namespace Toml

/-- A dotted key: the keys of the tables it goes through, and the key in the last of them. -/
structure KeyPath where
  parents : List String
  last : String
deriving DecidableEq, Repr

/-- One part of a key: bare, or a one-line string. -/
def simpleKey : Reader String
  | '"' :: r =>
    match basic r with
    | some (s, r) => some (String.ofList s, r)
    | none => none
  | '\x27' :: r =>
    match literal r with
    | some (s, r) => some (String.ofList s, r)
    | none => none
  | cs =>
    if (cs.takeWhile isBareKey).isEmpty then none
    else some (String.ofList (cs.takeWhile isBareKey), cs.dropWhile isBareKey)

def keyLimit : Nat := 127

/-- Reads a key of at most so many parts, and the spaces around it. -/
def keyPath : Nat → Reader KeyPath
  | 0, _ => none
  | n + 1, cs =>
    match simpleKey (skipSpaces cs) with
    | none => none
    | some (k, r) =>
      match skipSpaces r with
      | '.' :: r =>
        match keyPath n r with
        | some (p, r) => some (⟨k :: p.parents, p.last⟩, r)
        | none => none
      | r => some (⟨[], k⟩, r)

end Toml
end ThemeMenu
