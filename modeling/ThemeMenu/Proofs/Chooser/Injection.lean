import ThemeMenu.Proofs.Chooser.Calls
import ThemeMenu.Proofs.Chooser.Select
import ThemeMenu.Proofs.Page.Insertion

/-!
# ThemeMenu.Proofs.Chooser.Injection

The first `install` on a document. It puts one select behind the children of the menu, chosen for
the theme that the document links, and touches nothing else. Where the id of the select is carried
already, the order of the document decides: an element up to the last descendant of the menu keeps
the id, any later one loses it to the select.

* `linkedTheme_eq_dark_iff`: when a page counts as dark.
* `Chooser.ControlFor`: what makes a select the control for a theme.
* `Chooser.Injects`: all that `install` does to a document.
* `install_injects`: it does so in every state in which the select is not in place.
-/

namespace ThemeMenu
namespace Chooser

section Link

variable {π : Type} [Page π]

/-- A page counts as dark when it links the dark stylesheet and that is not the light one too. -/
theorem linkedTheme_eq_dark_iff (s : Chooser π) :
    s.linkedTheme = .dark ↔
      Page.getAttribute s.page s.config.stylesheetId "href" = .ok (some s.config.dark.path) ∧
        s.config.dark.path ≠ s.config.light.path := by
  unfold linkedTheme
  cases hg : Page.getAttribute s.page s.config.stylesheetId "href" with
  | error e => simp
  | ok o =>
    cases o with
    | none => simp
    | some href =>
      have hdark : (s.catalog.themeWithPath? href).getD .light = .dark ↔
          s.catalog.themeWithPath? href = some .dark := by
        cases s.catalog.themeWithPath? href <;> simp
      simp only [hdark, Catalog.themeWithPath?_eq_dark_iff]
      show s.config.dark.path = href ∧ s.config.light.path ≠ href ↔ _
      constructor
      · rintro ⟨rfl, hne⟩
        exact ⟨rfl, hne.symm⟩
      · rintro ⟨hok, hne⟩
        cases hok
        exact ⟨rfl, hne.symm⟩

end Link

/-- A select with one option for each theme, light before dark, of which that of the given theme,
and no other, is chosen. -/
structure ControlFor (c : Config) (t : Theme) (e : Element) : Prop where
  tag : e.tag = "select"
  id : e.id = some c.selectorId
  options : ∃ light dark, e.children = [light, dark] ∧
    light.tag = "option" ∧ light.text = some c.light.label ∧
    dark.tag = "option" ∧ dark.text = some c.dark.label
  selected : e.selectedIndex? = some t.index
  chosen : e.options.countP Element.isChosen = 1

theorem controlFor_selectFor (c : Config) (t : Theme) : ControlFor c t (selectFor c t) where
  tag := rfl
  id := rfl
  options := ⟨_, _, children_selectFor c t, rfl, rfl, rfl, rfl⟩
  selected := selectedIndex?_selectFor c t
  chosen := countP_isChosen_selectFor c t

/-- What becomes of a document when the select comes in, with the menu at `m` and `front` the
document up to the last element below the menu. -/
structure Injects (s s' : Chooser Document) (m : Address) (menu : Element) (front : List Element)
    (select : Element) : Prop where
  page : s'.page = s.page.insertAt m select
  control : ControlFor s.config s'.selected select
  children : s'.page.childrenAt s.config.menuId = .ok (menu.children ++ [select])
  dark : s'.selected = .dark ↔
    Page.getAttribute s.page s.config.stylesheetId "href" = .ok (some s.config.dark.path) ∧
      s.config.dark.path ≠ s.config.light.path
  /-- The id of the select leads to it if nothing up to there carries that id, ... -/
  leads : s'.page.LeadsTo s.config.selectorId (m ++ [menu.children.length]) select ↔
    ∀ n ∈ front, n.id ≠ some s.config.selectorId
  /-- ... and else to the place to which it led before. -/
  earlier : (∃ n ∈ front, n.id = some s.config.selectorId) →
    ∃ a n n', s.page.LeadsTo s.config.selectorId a n ∧ s'.page.LeadsTo s.config.selectorId a n'
  other : ∀ id ≠ s.config.selectorId, s'.page.body.locate? id = s.page.body.locate? id
  /-- The link is at the same place, unless the select has its id and comes before it. -/
  link : s'.page.body.locate? s.config.stylesheetId = s.page.body.locate? s.config.stylesheetId ↔
    s.config.selectorId ≠ s.config.stylesheetId ∨
      ∃ n ∈ front, n.id = some s.config.stylesheetId

section Install

variable {s s' : Chooser Document} {m : Address} {menu : Element}

/-- `apply` writes the path of a theme at the place of the link and nowhere else. -/
theorem apply_at_link {a : Address} (ha : s.page.body.locate? s.config.stylesheetId = some a)
    (t : Theme) :
    (s.apply t).result = .ok () ∧
      (s.apply t).after.page
        = ⟨s.page.body.modifyAt (·.setAttribute "href" (s.catalog.entry t).path) a⟩ := by
  obtain ⟨hr, hafter⟩ := apply_eq_ok (s := s) (t := t) (Document.edit_of_locate? _ ha)
  rw [hafter]
  exact ⟨hr, rfl⟩

theorem injects_of_insertAt (hmenu : s.page.LeadsTo s.config.menuId m menu)
    (hsel : s'.selected = s.linkedTheme)
    (hpage : s'.page = s.page.insertAt m (selectFor s.config s.linkedTheme)) :
    Injects s s' m menu (s.page.body.nodesThrough m) (selectFor s.config s.linkedTheme) := by
  obtain ⟨-, hat⟩ := Document.leadsTo_iff.1 hmenu
  have hselect : (selectFor s.config s.linkedTheme).locate? s.config.selectorId = some [] :=
    locate?_selectFor _ _
  have hother : ∀ id ≠ s.config.selectorId,
      s'.page.body.locate? id = s.page.body.locate? id := by
    intro id hid
    rw [hpage]
    exact Document.locate?_insertAt_of_absent (locate?_selectFor_of_ne hid) m
  constructor
  case page => exact hpage
  case control =>
    rw [hsel]
    exact controlFor_selectFor _ _
  case children =>
    rw [hpage]
    exact Document.childrenAt_insertAt hmenu
  case dark =>
    rw [hsel]
    exact linkedTheme_eq_dark_iff s
  case leads =>
    rw [hpage]
    exact Document.leadsTo_insertAt_iff hat hselect
  case earlier =>
    rw [hpage]
    exact Document.leadsTo_insertAt_of_carried hat
  case other => exact hother
  case link =>
    by_cases h : s.config.selectorId = s.config.stylesheetId
    · rw [← h, hpage, Document.locate?_insertAt_eq_iff hat hselect]
      simp
    · simp [h, hother _ (Ne.symm h)]

/-- **The first `install` on a document.** With a menu in the document it succeeds, puts the
control behind the children of the menu, and moves no id but that of the select, which it takes
from elements after the menu only. `apply` writes at the place of the link, before and after. -/
theorem install_injects (s : Chooser Document) (hi : s.installed = false)
    (hm : (s.page.find? s.config.menuId).isSome) :
    s.install.result = .ok () ∧ s.install.after.installed = true ∧
      s.install.after.config = s.config ∧
      (∃ m menu select, s.page.Front s.config.menuId m menu (s.page.body.nodesThrough m) ∧
        Injects s s.install.after m menu (s.page.body.nodesThrough m) select) ∧
      ∀ u ∈ [s, s.install.after], ∀ a t,
        u.page.body.locate? u.config.stylesheetId = some a →
          (u.apply t).result = .ok () ∧
            (u.apply t).after.page
              = ⟨u.page.body.modifyAt (·.setAttribute "href" (u.catalog.entry t).path) a⟩ := by
  obtain ⟨m, menu, hmenu⟩ := Document.exists_leadsTo hm
  obtain ⟨hr, hafter⟩ := install_eq_ok hi (Document.edit_of_locate? _ hmenu.place)
  rw [hafter]
  refine ⟨hr, rfl, rfl, ?_, ?_⟩
  · exact ⟨m, menu, _, Document.front_nodesThrough hmenu, injects_of_insertAt hmenu rfl rfl⟩
  · intro u _ a t ha
    exact apply_at_link ha t

/-- A select with the id of the link, and a dark link behind the menu: the select takes the id
from the link. -/
theorem install_injects_shadow :
    let c : Config := { selectorId := "color_css" }
    let menu : Element := { tag := "div", id := some "menu" }
    let link : Element :=
      { tag := "link", id := some "color_css", attributes := ⟨[("href", "./css/dark.css")]⟩ }
    let s := ofPage (Document.ofElements [menu, link]) c
    s.installed = false ∧ (s.page.find? "menu").isSome ∧
      s.page.LeadsTo "color_css" [1] link ∧ s.install.after.selected = .dark ∧
      ∃ select, ControlFor c .dark select ∧ s.install.after.page.LeadsTo "color_css" [0, 0] select := by
  intro c menu link s
  obtain ⟨-, -, -, ⟨m, menu', select, hfront, hinj⟩, -⟩ := install_injects s rfl rfl
  have hm : [0] = m := Option.some.inj hfront.leads.place
  have hmenu : menu = menu' := Option.some.inj hfront.leads.element
  subst hm hmenu
  have hsel : s.install.after.selected = .dark := hinj.dark.2 ⟨rfl, by decide⟩
  have hcontrol := hinj.control
  rw [hsel] at hcontrol
  exact ⟨rfl, rfl, ⟨rfl, rfl⟩, hsel, select, hcontrol, hinj.leads.2 (by decide)⟩

end Install

end Chooser
end ThemeMenu
