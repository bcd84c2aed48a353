import ThemeMenu.Element.Basic
import ThemeMenu.Page.Error
import ThemeMenu.Step

/-!
# ThemeMenu.Page.Basic

What the menu needs from the page it is put into: finding the element with an id, and rewriting
that element in place. All operations of a page go through these two, so on every page they fail
when the id is not found. An operation that changes the page is a `Step`: it leaves a page behind
even when it fails.

* `Page`: the two capabilities, which agree on the ids they know.
* `Page.visit`: working on the element with an id, in place.
* `Page.appendChild`, `Page.setAttribute`, `Page.getAttribute`: the operations.
* `edit_ok_or_error`: the two ways in which a change of the page ends.
* `edit_eq_error_iff`, `after_edit_of_error`: when it fails, and that the page is then as before.
-/

namespace ThemeMenu

class Page (π : Type) where
  element? : π → String → Option Element
  update? : π → String → (Element → Element) → Option π
  isSome_update? : ∀ p id f, (update? p id f).isSome = (element? p id).isSome

namespace Page

variable {π α : Type} [Page π]

/-- Works on the element with an id. What the routine makes of the element stays in the page, also
when the routine fails. -/
def visit (p : π) (id : String) (r : Routine Element PageError α) : Step π PageError α :=
  match element? p id, update? p id fun e => (r e).after with
  | some e, some q => ⟨(r e).result, q, (r e).logs⟩
  | _, _ => Routine.run p (.fail (.elementNotFound id))

/-- Rewrites the element with an id. -/
def edit (p : π) (id : String) (f : Element → Element) : Step π PageError Unit :=
  visit p id (.modify f)

/-- Adds a last child to the element with an id. -/
def appendChild (p : π) (parent : String) (child : Element) : Step π PageError Unit :=
  edit p parent (·.append child)

def setAttribute (p : π) (id name value : String) : Step π PageError Unit :=
  edit p id (·.setAttribute name value)

/-- Reads an attribute; an element without it answers `none`. -/
def getAttribute (p : π) (id name : String) : Except PageError (Option String) :=
  match element? p id with
  | some e => .ok (e.attribute? name)
  | none => .error (.elementNotFound id)

section Visit

variable {p q : π} {id : String} {r : Routine Element PageError α}

theorem update?_of_none (h : element? p id = none) (f : Element → Element) :
    update? p id f = none := by
  rw [← Option.not_isSome_iff_eq_none, isSome_update?, h]
  exact nofun

theorem visit_of_update? {e : Element} (he : element? p id = some e)
    (hu : update? p id (fun e => (r e).after) = some q) :
    visit p id r = ⟨(r e).result, q, (r e).logs⟩ := by
  rw [visit, he, hu]

theorem visit_of_none (h : element? p id = none) (r : Routine Element PageError α) :
    visit p id r = ⟨.error (.elementNotFound id), p, []⟩ := by
  rw [visit, h]
  rfl

end Visit

section Edit

variable {p q : π} {id : String} {f : Element → Element} {e : PageError}

theorem edit_of_update? (h : update? p id f = some q) : edit p id f = ⟨.ok (), q, []⟩ := by
  have hsome := isSome_update? p id f
  rw [h, Option.isSome_some, eq_comm, Option.isSome_iff_exists] at hsome
  obtain ⟨n, hn⟩ := hsome
  exact visit_of_update? hn h

theorem edit_of_none (f : Element → Element) (h : element? p id = none) :
    edit p id f = ⟨.error (.elementNotFound id), p, []⟩ := visit_of_none h _

theorem edit_ok_or_error (p : π) (id : String) (f : Element → Element) :
    (element? p id ≠ none ∧ ∃ q, edit p id f = ⟨.ok (), q, []⟩) ∨
      (element? p id = none ∧ edit p id f = ⟨.error (.elementNotFound id), p, []⟩) := by
  cases hu : update? p id f with
  | none =>
    have hnone : element? p id = none := by
      rw [← Option.not_isSome_iff_eq_none, ← isSome_update? p id f, hu]
      exact nofun
    exact .inr ⟨hnone, edit_of_none f hnone⟩
  | some q =>
    refine .inl ⟨?_, q, edit_of_update? hu⟩
    intro hnone
    rw [update?_of_none hnone] at hu
    cases hu

theorem appendChild_ok_or_error (p : π) (id : String) (child : Element) :
    (element? p id ≠ none ∧ ∃ q, appendChild p id child = ⟨.ok (), q, []⟩) ∨
      (element? p id = none ∧ appendChild p id child = ⟨.error (.elementNotFound id), p, []⟩) :=
  edit_ok_or_error p id _

theorem setAttribute_ok_or_error (p : π) (id name value : String) :
    (element? p id ≠ none ∧ ∃ q, setAttribute p id name value = ⟨.ok (), q, []⟩) ∨
      (element? p id = none ∧
        setAttribute p id name value = ⟨.error (.elementNotFound id), p, []⟩) :=
  edit_ok_or_error p id _

theorem edit_eq_error_iff :
    (edit p id f).result = .error e ↔ element? p id = none ∧ e = .elementNotFound id := by
  obtain ⟨hne, q, hq⟩ | ⟨hnone, hq⟩ := edit_ok_or_error p id f
  · simp [hq, hne]
  · simp [hq, hnone, eq_comm]

theorem after_edit_of_error (h : (edit p id f).result = .error e) : (edit p id f).after = p := by
  rw [edit_of_none f (edit_eq_error_iff.1 h).1]

end Edit

section Read

variable {p : π} {id name : String}

theorem getAttribute_of_element? {e : Element} (h : element? p id = some e) (name : String) :
    getAttribute p id name = .ok (e.attribute? name) := by
  rw [getAttribute, h]

theorem getAttribute_eq_error_iff {e : PageError} :
    getAttribute p id name = .error e ↔ element? p id = none ∧ e = .elementNotFound id := by
  unfold getAttribute
  cases element? p id <;> simp [eq_comm]

end Read

end Page
end ThemeMenu
