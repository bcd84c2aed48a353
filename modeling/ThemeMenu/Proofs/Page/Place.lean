import ThemeMenu.Page.Document
import ThemeMenu.Proofs.Tree.Address

/-!
# ThemeMenu.Proofs.Page.Place

The operations of a document, told from the address an id leads to. A change by id is a change at
that address, and a read by id is a read there; without an address both fail, and the document
stays as it is.
-/

namespace ThemeMenu
namespace Document

variable {α : Type} {d : Document} {id : String} {a : Address} {n : Element}

theorem find?_of_locate? (ha : d.body.locate? id = some a) : d.find? id = d.body.at? a := by
  rw [find?, Element.find?_eq_at?_locate?, ha, Option.bind_some]

theorem find?_of_locate?_none (h : d.body.locate? id = none) : d.find? id = none := by
  rw [find?, Element.find?_eq_at?_locate?, h, Option.bind_none]

theorem exists_find?_of_locate? (ha : d.body.locate? id = some a) : ∃ n, d.find? id = some n := by
  rw [find?_of_locate? ha]
  exact Element.exists_at?_locate? ha

theorem exists_locate? (h : (d.find? id).isSome) : ∃ a, d.body.locate? id = some a := by
  rw [find?, ← Element.isSome_locate?] at h
  exact Option.isSome_iff_exists.1 h

/-- What a routine makes of the element that the id leads to stands at its address afterwards. -/
theorem visit_of_locate? (r : Routine Element PageError α) (ha : d.body.locate? id = some a)
    (hn : d.body.at? a = some n) :
    Page.visit d id r = ⟨(r n).result, ⟨d.body.modifyAt (fun e => (r e).after) a⟩, (r n).logs⟩ := by
  have he : Page.element? d id = some n := (find?_of_locate? ha).trans hn
  have hu : Page.update? d id (fun e => (r e).after)
      = some ⟨d.body.modifyAt (fun e => (r e).after) a⟩ := by
    show Document.update? d id _ = _
    rw [update?, Element.update?_eq_modifyAt_locate?, ha, Option.map_some]
  exact Page.visit_of_update? he hu

theorem visit_of_locate?_none (r : Routine Element PageError α) (h : d.body.locate? id = none) :
    Page.visit d id r = ⟨.error (.elementNotFound id), d, []⟩ :=
  Page.visit_of_none (find?_of_locate?_none h) r

/-- A routine that leaves the element as it found it leaves the whole document so. -/
theorem visit_of_unchanged {r : Routine Element PageError α} (ha : d.body.locate? id = some a)
    (hn : d.body.at? a = some n) (hr : (r n).after = n) :
    Page.visit d id r = ⟨(r n).result, d, (r n).logs⟩ := by
  have hsame : d.body.modifyAt (fun e => (r e).after) a = d.body.modifyAt (fun e => e) a :=
    (Element.modifyAt_eq_iff hn).2 hr
  rw [visit_of_locate? r ha hn, hsame, Element.modifyAt_id]

theorem edit_of_locate? (f : Element → Element) (ha : d.body.locate? id = some a) :
    Page.edit d id f = ⟨.ok (), ⟨d.body.modifyAt f a⟩, []⟩ := by
  obtain ⟨n, hn⟩ := Element.exists_at?_locate? ha
  exact visit_of_locate? (.modify f) ha hn

theorem edit_of_locate?_none (f : Element → Element) (h : d.body.locate? id = none) :
    Page.edit d id f = ⟨.error (.elementNotFound id), d, []⟩ :=
  visit_of_locate?_none _ h

/-- A second change under one id goes to the same element, if the first keeps the id of the
element. -/
theorem edit_edit (d : Document) (id : String) {f : Element → Element} (g : Element → Element)
    (hf : ∀ n, (f n).id = n.id) :
    Page.edit (Page.edit d id f).after id g = Page.edit d id fun n => g (f n) := by
  cases ha : d.body.locate? id with
  | none => simp only [edit_of_locate?_none _ ha]
  | some a =>
    have hsame : (d.body.modifyAt f a).locate? id = some a := Element.locate?_modifyAt_self hf ha
    rw [edit_of_locate? f ha, edit_of_locate? g hsame, edit_of_locate? _ ha,
      Element.modifyAt_modifyAt]

theorem getAttribute_of_find? (name : String) (hn : d.find? id = some n) :
    Page.getAttribute d id name = .ok (n.attribute? name) :=
  Page.getAttribute_of_element? hn name

theorem getAttribute_of_find?_none (name : String) (h : d.find? id = none) :
    Page.getAttribute d id name = .error (.elementNotFound id) :=
  Page.getAttribute_eq_error_iff.2 ⟨h, rfl⟩

end Document
end ThemeMenu
