import ThemeMenu.Page.Shell

/-!
# ThemeMenu.Proofs.Page.Cells

The operations of the application's page, which has two elements to address. The menu is asked
first, so it answers alone where both have the same id.

* `edit_cases`: the three ways in which a change of the page ends.
* `edit_edit`: two changes under one id.
* `Shell.Named`: the ids of the two elements, which no change of the page changes.
-/

namespace ThemeMenu
namespace Shell

variable {p : Shell} {id : String}

theorem element?_menu (h : p.menu.id = some id) : Page.element? p id = some p.menu := by
  show Shell.element? p id = _
  rw [element?, if_pos h]

theorem element?_link (hm : p.menu.id ≠ some id) (hl : p.link.id = some id) :
    Page.element? p id = some p.link := by
  show Shell.element? p id = _
  rw [element?, if_neg hm, if_pos hl]

theorem element?_none (hm : p.menu.id ≠ some id) (hl : p.link.id ≠ some id) :
    Page.element? p id = none := by
  show Shell.element? p id = _
  rw [element?, if_neg hm, if_neg hl]

theorem edit_menu (f : Element → Element) (h : p.menu.id = some id) :
    Page.edit p id f = ⟨.ok (), { p with menu := f p.menu }, []⟩ := by
  have hu : Page.update? p id f = some { p with menu := f p.menu } := by
    show Shell.update? p id f = _
    rw [update?, if_pos h]
  exact Page.edit_of_update? hu

theorem edit_link (f : Element → Element) (hm : p.menu.id ≠ some id) (hl : p.link.id = some id) :
    Page.edit p id f = ⟨.ok (), { p with link := f p.link }, []⟩ := by
  have hu : Page.update? p id f = some { p with link := f p.link } := by
    show Shell.update? p id f = _
    rw [update?, if_neg hm, if_pos hl]
  exact Page.edit_of_update? hu

theorem edit_none (f : Element → Element) (hm : p.menu.id ≠ some id) (hl : p.link.id ≠ some id) :
    Page.edit p id f = ⟨.error (.elementNotFound id), p, []⟩ :=
  Page.edit_of_none f (element?_none hm hl)

/-- A change rewrites the menu, or else the link, or fails and leaves both as they are. -/
theorem edit_cases (p : Shell) (id : String) (f : Element → Element) :
    (p.menu.id = some id ∧ Page.edit p id f = ⟨.ok (), { p with menu := f p.menu }, []⟩) ∨
    (p.menu.id ≠ some id ∧ p.link.id = some id ∧
      Page.edit p id f = ⟨.ok (), { p with link := f p.link }, []⟩) ∨
    (p.menu.id ≠ some id ∧ p.link.id ≠ some id ∧
      Page.edit p id f = ⟨.error (.elementNotFound id), p, []⟩) := by
  by_cases hm : p.menu.id = some id
  · exact .inl ⟨hm, edit_menu f hm⟩
  · by_cases hl : p.link.id = some id
    · exact .inr (.inl ⟨hm, hl, edit_link f hm hl⟩)
    · exact .inr (.inr ⟨hm, hl, edit_none f hm hl⟩)

/-- A second change under one id goes to the same element, if the first keeps the id of the
element. -/
theorem edit_edit (p : Shell) (id : String) {f : Element → Element} (g : Element → Element)
    (hf : ∀ n, (f n).id = n.id) :
    Page.edit (Page.edit p id f).after id g = Page.edit p id fun n => g (f n) := by
  obtain ⟨hm, hq⟩ | ⟨hm, hl, hq⟩ | ⟨hm, hl, hq⟩ := edit_cases p id f
  · rw [hq, edit_menu (p := { p with menu := f p.menu }) g ((hf p.menu).trans hm), edit_menu _ hm]
  · rw [hq, edit_link (p := { p with link := f p.link }) g hm ((hf p.link).trans hl),
      edit_link _ hm hl]
  · rw [hq, edit_none g hm hl, edit_none _ hm hl]

/-- The menu and the link have the ids of the settings. -/
structure Named (c : Config) (p : Shell) : Prop where
  menu_id : p.menu.id = some c.menuId
  link_id : p.link.id = some c.stylesheetId

theorem named_ofConfig (c : Config) : Named c (ofConfig c) := ⟨rfl, rfl⟩

section Named

variable {c : Config} (hp : Named c p)
include hp

theorem Named.menu_ne (hid : id ≠ c.menuId) : p.menu.id ≠ some id :=
  fun he => hid (Option.some.inj (he.symm.trans hp.menu_id))

theorem Named.link_ne (hid : id ≠ c.stylesheetId) : p.link.id ≠ some id :=
  fun he => hid (Option.some.inj (he.symm.trans hp.link_id))

theorem Named.menuId_eq : p.menuId = c.menuId := by
  rw [menuId, hp.menu_id]
  rfl

theorem Named.linkId_eq : p.linkId = c.stylesheetId := by
  rw [linkId, hp.link_id]
  rfl

theorem Named.edit (id : String) (f : Element → Element) (hf : ∀ n, (f n).id = n.id) :
    Named c (Page.edit p id f).after := by
  obtain ⟨-, hq⟩ | ⟨-, -, hq⟩ | ⟨-, -, hq⟩ := edit_cases p id f
  · rw [hq]
    exact ⟨(hf p.menu).trans hp.menu_id, hp.link_id⟩
  · rw [hq]
    exact ⟨hp.menu_id, (hf p.link).trans hp.link_id⟩
  · rw [hq]
    exact hp

theorem Named.appendChild (id : String) (child : Element) :
    Named c (Page.appendChild p id child).after := hp.edit id _ fun _ => rfl

theorem Named.setAttribute (id name value : String) :
    Named c (Page.setAttribute p id name value).after := hp.edit id _ fun _ => rfl

end Named

theorem getAttribute_link (name : String) (hm : p.menu.id ≠ some id) (hl : p.link.id = some id) :
    Page.getAttribute p id name = .ok (p.link.attribute? name) :=
  Page.getAttribute_of_element? (element?_link hm hl) name

theorem href_ofConfig (c : Config) :
    (ofConfig c).link.attribute? "href" = some c.light.path := rfl

end Shell
end ThemeMenu
