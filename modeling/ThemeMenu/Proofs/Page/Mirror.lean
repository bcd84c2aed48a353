import ThemeMenu.Chooser.Basic
import ThemeMenu.Page.Shell
import ThemeMenu.Proofs.Page.Cells
import ThemeMenu.Proofs.Page.Place
import ThemeMenu.Proofs.Chooser.Select

/-!
# ThemeMenu.Proofs.Page.Mirror

The application's page as a document. The document has the link before the menu and searches both
in depth; the application's page looks at the two elements themselves, the menu first. With
different ids for the two, neither way of searching can be told from the other by an id that leads
to one of them, or by an id that leads into neither.

* `Page.Mirrors`: one page answers an id as another page does.
* `Shell.document`: the document that an application's page stands for.
* `Shell.Hosts`: what keeps the two alike, for as long as the menu gets nothing but the select.
* `Shell.mirrors_document`: the ids under which they are alike.
-/

namespace ThemeMenu

/-- Seen through `φ`, the page answers and changes under the id as `p` does. -/
structure Page.Mirrors {π ρ : Type} [Page π] [Page ρ] (φ : π → ρ) (p : π) (id : String) : Prop where
  element : Page.element? (φ p) id = Page.element? p id
  edit : ∀ f, Page.edit (φ p) id f = (Page.edit p id f).map φ

theorem Page.Mirrors.getAttribute {π ρ : Type} [Page π] [Page ρ] {φ : π → ρ} {p : π} {id : String}
    (h : Page.Mirrors φ p id) (name : String) :
    Page.getAttribute (φ p) id name = Page.getAttribute p id name := by
  rw [Page.getAttribute, h.element, Page.getAttribute]

namespace Shell

def document (p : Shell) : Document := Document.ofElements [p.link, p.menu]

/-- A page with the ids of the settings, in which no other id but that of the select occurs. -/
structure Hosts (c : Config) (p : Shell) : Prop extends Named c p where
  link_leaf : p.link.children = []
  menu_free : ∀ id, id ≠ c.selectorId → Element.locateAmong? id p.menu.children = none

variable {c : Config} {p : Shell} {id : String}

theorem hosts_ofConfig (c : Config) : Hosts c (ofConfig c) :=
  ⟨named_ofConfig c, rfl, fun _ _ => rfl⟩

/-! ## Where ids lead in the document -/

theorem locate?_link (hp : Hosts c p) (h : id ≠ c.stylesheetId) : p.link.locate? id = none := by
  rw [Element.locate?_eq, if_neg (hp.link_ne h), hp.link_leaf]
  rfl

theorem locate?_document (hp : Hosts c p) (h : id ≠ c.stylesheetId) :
    p.document.body.locate? id = (p.menu.locate? id).map (1 :: ·) := by
  have hb : p.document.body.id ≠ some id := nofun
  rw [Element.locate?_eq, if_neg hb]
  simp only [document, Document.ofElements, Element.locateAmong?, locate?_link hp h]
  cases p.menu.locate? id <;> rfl

theorem locate?_document_link (hp : Hosts c p) :
    p.document.body.locate? c.stylesheetId = some [0] := by
  have hb : p.document.body.id ≠ some c.stylesheetId := nofun
  rw [Element.locate?_eq, if_neg hb]
  simp only [document, Document.ofElements, Element.locateAmong?,
    Element.locate?_eq_nil hp.link_id, Option.map_some]

theorem locate?_document_menu (h : c.menuId ≠ c.stylesheetId) (hp : Hosts c p) :
    p.document.body.locate? c.menuId = some [1] := by
  rw [locate?_document hp h, Element.locate?_eq_nil hp.menu_id, Option.map_some]

theorem locate?_document_none (hp : Hosts c p) (hl : id ≠ c.stylesheetId) (hm : id ≠ c.menuId)
    (hs : id ≠ c.selectorId) : p.document.body.locate? id = none := by
  rw [locate?_document hp hl, Element.locate?_eq, if_neg (hp.menu_ne hm), hp.menu_free id hs]
  rfl

theorem find?_document_link (hp : Hosts c p) : p.document.find? c.stylesheetId = some p.link :=
  Document.find?_of_locate? (locate?_document_link hp)

theorem find?_document_menu (h : c.menuId ≠ c.stylesheetId) (hp : Hosts c p) :
    p.document.find? c.menuId = some p.menu :=
  Document.find?_of_locate? (locate?_document_menu h hp)

/-- The id of the select may well be that of the link or of the menu: both come before the select
in the document. -/
theorem mirrors_document (h : c.menuId ≠ c.stylesheetId) (hp : Hosts c p)
    (hid : id = c.selectorId → id = c.stylesheetId ∨ id = c.menuId) :
    Page.Mirrors document p id := by
  by_cases hl : id = c.stylesheetId
  · subst hl
    have hm := hp.menu_ne h.symm
    refine ⟨?_, fun f => ?_⟩
    · rw [element?_link hm hp.link_id]
      exact find?_document_link hp
    · rw [edit_link f hm hp.link_id, Document.edit_of_locate? f (locate?_document_link hp)]
      rfl
  · by_cases hm : id = c.menuId
    · subst hm
      refine ⟨?_, fun f => ?_⟩
      · rw [element?_menu hp.menu_id]
        exact find?_document_menu h hp
      · rw [edit_menu f hp.menu_id, Document.edit_of_locate? f (locate?_document_menu h hp)]
        rfl
    · have hs : id ≠ c.selectorId := fun he => (hid he).elim hl hm
      have hnone := locate?_document_none hp hl hm hs
      refine ⟨?_, fun f => ?_⟩
      · rw [element?_none (hp.menu_ne hm) (hp.link_ne hl)]
        exact Document.find?_of_locate?_none hnone
      · rw [edit_none f (hp.menu_ne hm) (hp.link_ne hl), Document.edit_of_locate?_none f hnone]
        rfl

/-! ## Changes of the page -/

theorem hosts_setAttribute (hp : Hosts c p) (id name value : String) :
    Hosts c (Page.setAttribute p id name value).after := by
  have hn := hp.toNamed.setAttribute id name value
  rw [Page.setAttribute] at hn ⊢
  obtain ⟨-, hq⟩ | ⟨-, -, hq⟩ | ⟨-, -, hq⟩ := edit_cases p id (·.setAttribute name value)
  · rw [hq] at hn ⊢
    exact ⟨hn, hp.link_leaf, hp.menu_free⟩
  · rw [hq] at hn ⊢
    exact ⟨hn, hp.link_leaf, hp.menu_free⟩
  · rw [hq]
    exact hp

theorem hosts_appendChild (hp : Hosts c p) (t : Theme) :
    Hosts c (Page.appendChild p c.menuId (Chooser.selectFor c t)).after := by
  have hn := hp.toNamed.appendChild c.menuId (Chooser.selectFor c t)
  rw [Page.appendChild, edit_menu _ hp.menu_id] at hn ⊢
  refine ⟨hn, hp.link_leaf, fun id hid => ?_⟩
  show Element.locateAmong? id (p.menu.children ++ [Chooser.selectFor c t]) = none
  rw [Element.locateAmong?_concat, hp.menu_free id hid, Chooser.locate?_selectFor_of_ne hid]
  rfl

end Shell
end ThemeMenu
