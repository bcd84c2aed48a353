import ThemeMenu.Element.Basic

/-!
# ThemeMenu.Element.Lookup

Finding and rewriting the element with an id. The search is depth first, the element itself
before its children and the children in order; an element without an id is never found. When
several elements carry the id, the first one in that order is meant.

* `Element.find?`: the element found.
* `Element.update?`: the tree with that element rewritten, or nothing when no element has the id.
* `isSome_update?`: both succeed for the same ids.
-/

namespace ThemeMenu
namespace Element

mutual

def find? (id : String) : Element → Option Element
  | e@⟨_, i, _, _, children⟩ => if i = some id then some e else findAmong? id children

def findAmong? (id : String) : List Element → Option Element
  | [] => none
  | e :: es =>
    match find? id e with
    | some found => some found
    | none => findAmong? id es

end

mutual

def update? (id : String) (f : Element → Element) : Element → Option Element
  | e@⟨tag, i, attributes, text, children⟩ =>
    if i = some id then some (f e)
    else
      match updateAmong? id f children with
      | some children => some ⟨tag, i, attributes, text, children⟩
      | none => none

def updateAmong? (id : String) (f : Element → Element) : List Element → Option (List Element)
  | [] => none
  | e :: es =>
    match update? id f e with
    | some e => some (e :: es)
    | none =>
      match updateAmong? id f es with
      | some es => some (e :: es)
      | none => none

end

theorem find?_eq (id : String) (e : Element) :
    e.find? id = if e.id = some id then some e else findAmong? id e.children := by
  cases e; simp only [find?]

mutual

theorem isSome_update? (id : String) (f : Element → Element) :
    ∀ e : Element, (update? id f e).isSome = (find? id e).isSome
  | ⟨tag, i, attributes, text, children⟩ => by
    have ih := isSome_updateAmong? id f children
    simp only [update?, find?]
    split
    · rfl
    · rw [← ih]
      cases updateAmong? id f children <;> rfl

theorem isSome_updateAmong? (id : String) (f : Element → Element) :
    ∀ es : List Element, (updateAmong? id f es).isSome = (findAmong? id es).isSome
  | [] => rfl
  | e :: es => by
    have h := isSome_update? id f e
    have ih := isSome_updateAmong? id f es
    simp only [updateAmong?, findAmong?]
    cases hu : update? id f e <;> cases hf : find? id e <;> simp_all
    rw [← ih]
    cases updateAmong? id f es <;> rfl

end

end Element
end ThemeMenu
