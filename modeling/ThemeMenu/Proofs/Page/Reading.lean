import ThemeMenu.Page.Basic
import ThemeMenu.Proofs.Tree.Address

/-!
# ThemeMenu.Proofs.Page.Reading

Reading attributes by id, on any page. A read looks at the element that the id finds and at nothing
below it, so a change that leaves this element alone cannot be read under the id.

* `getAttribute_congr`: pages on which an id finds the same, apart from what is below it.
* `getAttribute_of_write`: a page on which one attribute was written.
-/

namespace ThemeMenu
namespace Page

variable {π : Type} [Page π] {p q : π} {id x name value : String} {e : Element}

theorem getAttribute_eq_alone (p : π) (x name : String) :
    getAttribute p x name
      = match (element? p x).map Element.alone with
        | some e => .ok (e.attribute? name)
        | none => .error (.elementNotFound x) := by
  rw [getAttribute]
  cases element? p x <;> rfl

theorem getAttribute_congr
    (h : (element? q x).map Element.alone = (element? p x).map Element.alone) (name : String) :
    getAttribute q x name = getAttribute p x name := by
  rw [getAttribute_eq_alone, getAttribute_eq_alone, h]

theorem getAttribute_of_alone (h : (element? p x).map Element.alone = some e.alone)
    (name : String) : getAttribute p x name = .ok (e.attribute? name) := by
  rw [getAttribute_eq_alone, h]
  rfl

/-- The written value is read under the id and name to which it was written, and every other read
answers what it answered before. -/
theorem getAttribute_of_write (he : element? q id = some (e.setAttribute name value))
    (hp : element? p id = some e)
    (hother : ∀ x ≠ id, (element? q x).map Element.alone = (element? p x).map Element.alone)
    (x k : String) :
    getAttribute q x k
      = if x = id ∧ k = name then .ok (some value) else getAttribute p x k := by
  by_cases hx : x = id
  · subst hx
    rw [getAttribute_of_element? he, getAttribute_of_element? hp, Element.attribute?,
      Element.setAttribute, Attributes.get?_put]
    by_cases hk : k = name
    · simp only [hk, and_self, if_true]
    · simp only [hk, and_false, if_false, Element.attribute?]
  · simp only [hx, false_and, if_false]
    exact getAttribute_congr (hother x hx) k

end Page
end ThemeMenu
