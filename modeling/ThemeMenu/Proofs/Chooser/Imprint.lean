import ThemeMenu.Proofs.Chooser.Calls
import ThemeMenu.Proofs.Chooser.Select
import ThemeMenu.Proofs.Page.Place
import ThemeMenu.Proofs.Tree.Commute

/-!
# ThemeMenu.Proofs.Chooser.Imprint

What a run of calls leaves in a document. However long the run is and in whatever order its calls
come, the document differs from the one it began with in two places at most: the link, which has
the stylesheet of the last theme asked for, and the menu, which has the select as a new last child.

* `Imprint`: the two changes, and `Imprint.on`, a document with them.
* `Imprint.locate?_on`: an imprint moves no id but that of the select.
* `Imprint.body_link`, `Imprint.body_menu`: a further change of an imprinted document is an imprint
  again.
* `Imprint.Marks`: a chooser on an imprinted document, and what `install` and `apply` make of it.
-/

namespace ThemeMenu

namespace Element

/-- A change at an address, if there is one. -/
def modifyAt? (f : Element → Element) : Option Address → Element → Element
  | some a, e => e.modifyAt f a
  | none, e => e

end Element

@[ext]
structure Imprint where
  /-- The theme whose stylesheet was linked last. -/
  shown : Option Theme := none
  /-- The theme the select was built with. -/
  select : Option Theme := none
deriving DecidableEq, Repr

namespace Imprint

/-- What showing a theme does to the link. -/
def link (c : Config) : Option Theme → Element → Element
  | some t => (·.setAttribute "href" (c.catalog.entry t).path)
  | none => fun e => e

/-- What a select built with a theme does to the menu. -/
def hold (c : Config) : Option Theme → Element → Element
  | some t => (·.append (Chooser.selectFor c t))
  | none => fun e => e

/-- The link and the menu are looked up in the untouched document. -/
def on (x : Imprint) (c : Config) (d : Document) : Document :=
  ⟨Element.modifyAt? (hold c x.select) (d.body.locate? c.menuId)
    (Element.modifyAt? (link c x.shown) (d.body.locate? c.stylesheetId) d.body)⟩

variable {x : Imprint} {c : Config} {d : Document} {t : Theme} {a : Address}

theorem modifyAt?_none_link (a : Option Address) (e : Element) :
    Element.modifyAt? (link c none) a e = e := by
  cases a with
  | none => rfl
  | some a => exact Element.modifyAt_id a e

theorem modifyAt?_none_hold (a : Option Address) (e : Element) :
    Element.modifyAt? (hold c none) a e = e := by
  cases a with
  | none => rfl
  | some a => exact Element.modifyAt_id a e

theorem locate?_modifyAt?_link (id : String) (o : Option Theme) (a : Option Address)
    (e : Element) : (Element.modifyAt? (link c o) a e).locate? id = e.locate? id := by
  cases a with
  | none => rfl
  | some a =>
    apply Element.locate?_modifyAt
    intro n _
    cases o with
    | none => rfl
    | some t => exact Element.locate?_setAttribute "href" _

theorem locate?_modifyAt?_hold {id : String} (h : id = c.selectorId → id = c.menuId)
    (o : Option Theme) (e : Element) :
    (Element.modifyAt? (hold c o) (e.locate? c.menuId) e).locate? id = e.locate? id := by
  cases hm : e.locate? c.menuId with
  | none => rfl
  | some m =>
    apply Element.locate?_modifyAt
    intro n hn
    cases o with
    | none => rfl
    | some t =>
      show (n.append (Chooser.selectFor c t)).locate? id = n.locate? id
      rw [Element.locate?_append]
      by_cases hid : id = c.menuId
      · rw [hid, Element.locate?_eq_nil (Element.id_of_at?_locate? hm hn), Option.some_or]
      · rw [Chooser.locate?_selectFor_of_ne fun hs => hid (h hs), Option.map_none, Option.or_none]

/-- The new select is found by its own id at most, and not even by that one where the menu, which
comes before it, carries the same. -/
theorem locate?_on {id : String} (h : id = c.selectorId → id = c.menuId) :
    (x.on c d).body.locate? id = d.body.locate? id := by
  have hl := locate?_modifyAt?_link (c := c) id x.shown (d.body.locate? c.stylesheetId) d.body
  have hm := locate?_modifyAt?_link (c := c) c.menuId x.shown (d.body.locate? c.stylesheetId) d.body
  simp only [on]
  rw [← hm, locate?_modifyAt?_hold h, hl]

theorem locate?_on_link (hc : c.selectorId ≠ c.stylesheetId) :
    (x.on c d).body.locate? c.stylesheetId = d.body.locate? c.stylesheetId :=
  locate?_on fun h => absurd h.symm hc

theorem locate?_on_menu : (x.on c d).body.locate? c.menuId = d.body.locate? c.menuId :=
  locate?_on fun _ => rfl

/-- Linking a theme in an imprinted document. The link keeps its place while the select comes in,
so the two changes commute. -/
theorem body_link (ha : d.body.locate? c.stylesheetId = some a) (t : Theme) :
    (x.on c d).body.modifyAt (link c (some t)) a
      = (({ x with shown := some t } : Imprint).on c d).body := by
  have hin : (d.body.modifyAt (link c x.shown) a).modifyAt (link c (some t)) a
      = d.body.modifyAt (link c (some t)) a := by
    rw [Element.modifyAt_modifyAt]
    apply Element.modifyAt_congr
    intro n _
    cases x.shown with
    | none => rfl
    | some u => exact Element.setAttribute_setAttribute n "href" _ _
  simp only [on, ha, Element.modifyAt?]
  cases d.body.locate? c.menuId with
  | none => exact hin
  | some m =>
    cases x.select with
    | none =>
      simp only [hold, Element.modifyAt_id]
      exact hin
    | some u =>
      obtain ⟨n, hn⟩ := Element.exists_at?_locate? ha
      have hat : (d.body.modifyAt (link c x.shown) a).at? a = some (link c x.shown n) := by
        rw [Element.at?_modifyAt, hn, Option.map_some]
      rw [← hin]
      exact Element.modifyAt_append_setAttribute hat m _ "href" _

/-- Putting the select into a document that has none yet. -/
theorem body_menu (hx : x.select = none) (ha : d.body.locate? c.menuId = some a) (t : Theme) :
    (x.on c d).body.modifyAt (hold c (some t)) a
      = (({ x with select := some t } : Imprint).on c d).body := by
  simp only [on, hx, ha]
  rw [modifyAt?_none_hold]
  rfl

theorem on_empty (c : Config) (d : Document) : ({} : Imprint).on c d = d := by
  simp only [on, modifyAt?_none_hold, modifyAt?_none_link]

/-! ## What the link shows -/

/-- The theme that the stylesheet link of a document stands for after a theme was shown. -/
def linkedIn (d : Document) (c : Config) (shown : Option Theme) : Theme :=
  match d.find? c.stylesheetId with
  | none => .light
  | some n =>
    match (link c shown n).attribute? "href" with
    | some href => (c.catalog.themeWithPath? href).getD .light
    | none => .light

theorem getAttribute_on_of_missing (hc : c.selectorId ≠ c.stylesheetId)
    (h : d.body.locate? c.stylesheetId = none) :
    Page.getAttribute (x.on c d) c.stylesheetId "href"
      = .error (.elementNotFound c.stylesheetId) := by
  apply Document.getAttribute_of_find?_none
  apply Document.find?_of_locate?_none
  rw [locate?_on_link hc, h]

theorem getAttribute_on_of_shown (hc : c.selectorId ≠ c.stylesheetId)
    (ha : d.body.locate? c.stylesheetId = some a) (hx : x.shown = some t) :
    Page.getAttribute (x.on c d) c.stylesheetId "href"
      = .ok (some (c.catalog.entry t).path) := by
  have hl : (x.on c d).body.locate? c.stylesheetId = some a := (locate?_on_link hc).trans ha
  obtain ⟨n, hn⟩ := Element.exists_at?_locate? hl
  have hfind : (x.on c d).find? c.stylesheetId = some (link c (some t) n) := by
    have hx' : x = { x with shown := some t } := by cases x; simp_all
    -- showing the theme once more changes nothing, so the link is what that change makes of it
    rw [Document.find?_of_locate? hl, hx', ← body_link ha t, Element.at?_modifyAt, hn]
    rfl
  rw [Document.getAttribute_of_find? "href" hfind]
  exact congrArg Except.ok (Element.attribute?_setAttribute n "href" _)

theorem find?_link_on (hx : x.select = none) (hc : c.selectorId ≠ c.stylesheetId)
    (ha : d.body.locate? c.stylesheetId = some a) {n : Element}
    (hn : d.find? c.stylesheetId = some n) :
    (x.on c d).find? c.stylesheetId = some (link c x.shown n) := by
  have hl : (x.on c d).body.locate? c.stylesheetId = some a := (locate?_on_link hc).trans ha
  have hat : d.body.at? a = some n := by rw [← hn, Document.find?_of_locate? ha]
  rw [Document.find?_of_locate? hl]
  simp only [on, hx]
  rw [modifyAt?_none_hold, ha, Element.modifyAt?, Element.at?_modifyAt, hat, Option.map_some]

/-! ## Calls -/

/-- A chooser with the settings `c` on the document `d`, after the changes of an imprint. -/
structure Marks (x : Imprint) (c : Config) (d : Document) (s : Chooser Document) : Prop where
  config : s.config = c
  page : s.page = x.on c d
  installed : s.installed = x.select.isSome

theorem marks_ofPage (c : Config) (d : Document) :
    ({} : Imprint).Marks c d (Chooser.ofPage d c) :=
  ⟨rfl, (on_empty c d).symm, rfl⟩

section Calls

variable {s : Chooser Document}

/-- The theme read from the document when the select is about to go in. -/
theorem linkedTheme_of_marks (hc : c.selectorId ≠ c.stylesheetId) (hs : x.Marks c d s)
    (hx : x.select = none) : s.linkedTheme = linkedIn d c x.shown := by
  have hcat : s.catalog = c.catalog := Chooser.catalog_of_config hs.config
  rw [Chooser.linkedTheme, hs.page, hs.config, hcat, linkedIn]
  cases ha : d.body.locate? c.stylesheetId with
  | none =>
    rw [getAttribute_on_of_missing hc ha, Document.find?_of_locate?_none ha]
  | some a =>
    obtain ⟨n, hn⟩ := Document.exists_find?_of_locate? ha
    rw [Document.getAttribute_of_find? "href" (find?_link_on hx hc ha hn), hn]
    simp only
    cases (link c x.shown n).attribute? "href" <;> rfl

theorem marks_install (hc : c.selectorId ≠ c.stylesheetId) (hs : x.Marks c d s)
    (hx : x.select = none) (ha : d.body.locate? c.menuId = some a) :
    s.install.result = .ok () ∧
      ({ x with select := some (linkedIn d c x.shown) } : Imprint).Marks c d s.install.after ∧
      s.install.after.selected = linkedIn d c x.shown := by
  have ht := linkedTheme_of_marks hc hs hx
  have hi : s.installed = false := by rw [hs.installed, hx]; rfl
  have hp : Page.appendChild s.page s.config.menuId (Chooser.selectFor s.config s.linkedTheme)
      = ⟨.ok (), ({ x with select := some (linkedIn d c x.shown) } : Imprint).on c d, []⟩ := by
    have hl : (x.on c d).body.locate? c.menuId = some a := locate?_on_menu.trans ha
    rw [hs.page, hs.config, ht, Page.appendChild, Document.edit_of_locate? _ hl]
    exact congrArg (fun b => (⟨.ok (), ⟨b⟩, []⟩ : Step Document PageError Unit)) (body_menu hx ha _)
  obtain ⟨hr, hafter⟩ := Chooser.install_eq_ok hi hp
  rw [hafter]
  exact ⟨hr, ⟨hs.config, rfl, rfl⟩, ht⟩

theorem install_of_missing (hs : x.Marks c d s) (hx : x.select = none)
    (h : d.body.locate? c.menuId = none) :
    s.install.result = .error (.page (.elementNotFound c.menuId)) ∧ s.install.after = s := by
  have hi : s.installed = false := by rw [hs.installed, hx]; rfl
  have hl : s.page.body.locate? s.config.menuId = none := by
    rw [hs.page, hs.config, locate?_on_menu, h]
  obtain ⟨hr, hafter⟩ := Chooser.install_eq_error hi (Document.edit_of_locate?_none _ hl)
  rw [← hs.config]
  exact ⟨hr, hafter⟩

theorem marks_apply (hc : c.selectorId ≠ c.stylesheetId) (hs : x.Marks c d s)
    (ha : d.body.locate? c.stylesheetId = some a) (t : Theme) :
    (s.apply t).result = .ok () ∧
      ({ x with shown := some t } : Imprint).Marks c d (s.apply t).after ∧
      (s.apply t).after.selected = t := by
  have hcat : s.catalog = c.catalog := Chooser.catalog_of_config hs.config
  have hp : Page.setAttribute s.page s.config.stylesheetId "href" (s.catalog.entry t).path
      = ⟨.ok (), ({ x with shown := some t } : Imprint).on c d, []⟩ := by
    have hl : (x.on c d).body.locate? c.stylesheetId = some a := (locate?_on_link hc).trans ha
    rw [hs.page, hs.config, hcat, Page.setAttribute, Document.edit_of_locate? _ hl]
    exact congrArg (fun b => (⟨.ok (), ⟨b⟩, []⟩ : Step Document PageError Unit)) (body_link ha t)
  obtain ⟨hr, hafter⟩ := Chooser.apply_eq_ok hp
  rw [hafter]
  exact ⟨hr, ⟨hs.config, rfl, hs.installed⟩, rfl⟩

theorem apply_of_missing (hc : c.selectorId ≠ c.stylesheetId) (hs : x.Marks c d s)
    (h : d.body.locate? c.stylesheetId = none) (t : Theme) :
    (s.apply t).result = .error (.page (.elementNotFound c.stylesheetId)) ∧
      (s.apply t).after = s := by
  have hl : s.page.body.locate? s.config.stylesheetId = none := by
    rw [hs.page, hs.config, locate?_on_link hc, h]
  obtain ⟨hr, hafter⟩ := Chooser.apply_eq_error (t := t) (Document.edit_of_locate?_none _ hl)
  rw [← hs.config]
  exact ⟨hr, hafter⟩

end Calls

end Imprint
end ThemeMenu
