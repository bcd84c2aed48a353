import ThemeMenu.Attributes
import ThemeMenu.Text.Record

/-!
# ThemeMenu.Element.Basic

Elements of a page. Each has a tag, and may have an id, attributes, a text and children. The id is
a field of its own, so an attribute called `id` never changes how an element is addressed.

* `Element`, with decidable equality that compares the order of attributes too.
* `Element.setAttribute`, `Element.removeAttribute`, `Element.append`: changes of one element.
* `Element.describe`: the element in record notation.
-/

namespace ThemeMenu

structure Element where
  tag : String
  id : Option String := none
  attributes : Attributes := {}
  text : Option String := none
  children : List Element := []
deriving Inhabited

namespace Element

mutual

def decEq : (a b : Element) → Decidable (a = b)
  | ⟨tag, id, attributes, text, children⟩, ⟨tag', id', attributes', text', children'⟩ =>
    match decEqAll children children' with
    | isFalse h => isFalse fun e => h (Element.mk.inj e).2.2.2.2
    | isTrue h =>
      if h' : tag = tag' ∧ id = id' ∧ attributes = attributes' ∧ text = text' then
        isTrue (by obtain ⟨rfl, rfl, rfl, rfl⟩ := h'; rw [h])
      else
        isFalse fun e =>
          have i := Element.mk.inj e
          h' ⟨i.1, i.2.1, i.2.2.1, i.2.2.2.1⟩

def decEqAll : (as bs : List Element) → Decidable (as = bs)
  | [], [] => isTrue rfl
  | [], _ :: _ => isFalse nofun
  | _ :: _, [] => isFalse nofun
  | a :: as, b :: bs =>
    match decEq a b, decEqAll as bs with
    | isTrue h, isTrue h' => isTrue (by rw [h, h'])
    | isFalse h, _ => isFalse fun e => h (List.cons.inj e).1
    | _, isFalse h' => isFalse fun e => h' (List.cons.inj e).2

end

instance : DecidableEq Element := decEq

def attribute? (e : Element) (name : String) : Option String := e.attributes.get? name

def hasAttribute (e : Element) (name : String) : Bool := e.attributes.has name

def setAttribute (e : Element) (name value : String) : Element :=
  { e with attributes := e.attributes.put name value }

def removeAttribute (e : Element) (name : String) : Element :=
  { e with attributes := e.attributes.erase name }

/-- Adds a last child. -/
def append (e child : Element) : Element :=
  { e with children := e.children ++ [child] }

def describePair (p : String × String) : String :=
  "(" ++ quote p.1 ++ ", " ++ quote p.2 ++ ")"

mutual

def describe : Element → String
  | ⟨tag, id, attributes, text, children⟩ =>
    record "Element" [("tag", quote tag), ("id", optional id),
      ("attributes", listing (attributes.pairs.map describePair)),
      ("text", optional text), ("children", listing (describeAll children))]

def describeAll : List Element → List String
  | [] => []
  | e :: es => describe e :: describeAll es

end

end Element
end ThemeMenu
