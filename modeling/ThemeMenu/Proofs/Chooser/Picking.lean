import Mathlib.Data.List.Induction
import ThemeMenu.Proofs.Chooser.Imprint
import ThemeMenu.Proofs.Page.Choosing

/-!
# ThemeMenu.Proofs.Chooser.Picking

Picking themes in the select of a document. A pick moves the mark of the select, and then the
chooser shows the theme at the new position. The mark, the theme in use and the link are stored
apart; after any run of picks and further installs they agree.

The proof keeps an imprint: choosing in the select of an imprinted document gives the document
with the imprint whose select was built with the chosen theme (`choose_on`), so a pick replaces
both themes of the imprint by one (`marks_pick`).

* `Chooser.pick`, `Gesture`: a pick, and what a run is made of.
* `picks_agree`: the agreement after every run, and what the next pick does.
-/

namespace ThemeMenu

namespace Chooser

/-- A choice in the select of the page. The chooser hears of it if it was taken. -/
def pick (s : Chooser Document) (index : Nat) :
    Step (Chooser Document) ChooserError (Option Theme) :=
  (Routine.run s (onPage (·.choose s.config.selectorId index))).andThen fun chosen u =>
    u.change chosen

section Pick

variable {s : Chooser Document} {index : Nat} {d : Document} {logs : List Log.Line}

theorem pick_of_choose {chosen : Nat}
    (h : s.page.choose s.config.selectorId index = ⟨.ok chosen, d, logs⟩) :
    (s.pick index).result = ({ s with page := d }.perform (.change chosen)).result ∧
      (s.pick index).after = ({ s with page := d }.perform (.change chosen)).after := by
  have hrun := run_onPage_of_ok (f := (Document.choose · s.config.selectorId index)) h
  simp [pick, hrun, perform]

theorem pick_of_refused {e : PageError}
    (h : s.page.choose s.config.selectorId index = ⟨.error e, d, logs⟩) :
    (s.pick index).result = .error (.page e) ∧ (s.pick index).after = { s with page := d } := by
  have hrun := run_onPage_of_error (f := (Document.choose · s.config.selectorId index)) h
  simp [pick, hrun]

end Pick

end Chooser

inductive Gesture where
  | pick (index : Nat)
  | install
deriving DecidableEq, Repr

namespace Chooser

def gesture (s : Chooser Document) :
    Gesture → Step (Chooser Document) ChooserError (Option Theme)
  | .pick index => s.pick index
  | .install => s.perform .install

def afterGestures (s : Chooser Document) (gs : List Gesture) : Chooser Document :=
  gs.foldl (fun s g => (s.gesture g).after) s

end Chooser

/-- A document with a menu at `m` and a link at `l`, in which the id of the select is free. -/
structure Ready (c : Config) (d : Document) (m l : Address) (menu : Element) : Prop where
  menu_at : d.body.locate? c.menuId = some m
  menu : d.body.at? m = some menu
  link_at : d.body.locate? c.stylesheetId = some l
  free : d.body.locate? c.selectorId = none

theorem Ready.select_ne_link {c : Config} {d : Document} {m l : Address} {menu : Element}
    (h : Ready c d m l menu) : c.selectorId ≠ c.stylesheetId := by
  intro he
  have hl := h.link_at
  rw [← he, h.free] at hl
  cases hl

theorem exists_ready {c : Config} {d : Document} (hm : (d.find? c.menuId).isSome)
    (hl : (d.find? c.stylesheetId).isSome) (hn : ∀ n ∈ d.body.nodes, n.id ≠ some c.selectorId) :
    ∃ m l menu, Ready c d m l menu := by
  obtain ⟨m, hm⟩ := Document.exists_locate? hm
  obtain ⟨l, hl⟩ := Document.exists_locate? hl
  obtain ⟨menu, hmenu⟩ := Element.exists_at?_locate? hm
  exact ⟨m, l, menu, hm, hmenu, hl, Element.locate?_eq_none_iff.2 hn⟩

namespace Imprint

variable {x : Imprint} {c : Config} {d : Document} {t : Theme} {m l : Address} {menu : Element}

/-! ## The select in an imprinted document -/

/-- The menu as it stands before the select comes in: only attributes may have changed. -/
theorem exists_menu_link (hm : d.body.at? m = some menu) (o : Option Theme) (a : Option Address) :
    ∃ n, (Element.modifyAt? (link c o) a d.body).at? m = some n ∧
      n.children.length = menu.children.length := by
  cases a with
  | none => exact ⟨menu, hm, rfl⟩
  | some a =>
    cases o with
    | none => exact ⟨menu, by rw [modifyAt?_none_link, hm], rfl⟩
    | some t => exact Element.length_children_modifyAt_setAttribute "href" _ a hm

theorem body_of_select (h : Ready c d m l menu) (hx : x.select = some t) :
    (x.on c d).body
      = (Element.modifyAt? (link c x.shown) (d.body.locate? c.stylesheetId) d.body).modifyAt
          (·.append (Chooser.selectFor c t)) m := by
  simp only [on, hx, h.menu_at]
  rfl

/-- The only element that carries the id of the select is the new last child of the menu. -/
theorem locate?_select (h : Ready c d m l menu) (hx : x.select = some t) :
    (x.on c d).body.locate? c.selectorId = some (m ++ [menu.children.length]) := by
  obtain ⟨n, hat, hlen⟩ :=
    exists_menu_link (c := c) h.menu x.shown (d.body.locate? c.stylesheetId)
  have hnone : (Element.modifyAt? (link c x.shown) (d.body.locate? c.stylesheetId) d.body).locate?
      c.selectorId = none := by
    rw [locate?_modifyAt?_link, h.free]
  rw [body_of_select h hx, Element.locate?_modifyAt_of_none hnone hat, Element.locate?_append,
    Element.locate?_at?_of_none hnone hat, Chooser.locate?_selectFor, Option.none_or, hlen]
  rfl

theorem find?_select (h : Ready c d m l menu) (hx : x.select = some t) :
    (x.on c d).find? c.selectorId = some (Chooser.selectFor c t) := by
  obtain ⟨n, hat, hlen⟩ :=
    exists_menu_link (c := c) h.menu x.shown (d.body.locate? c.stylesheetId)
  rw [Document.find?_of_locate? (locate?_select h hx), body_of_select h hx, Element.at?_append,
    Element.at?_modifyAt, hat, ← hlen]
  simp [Element.append, Element.at?]

/-- Choosing in the select is building it with another theme. -/
theorem choose_on (h : Ready c d m l menu) (hx : x.select = some t) (u : Theme) :
    (x.on c d).choose c.selectorId u.index
      = ⟨.ok u.index, ({ x with select := some u } : Imprint).on c d,
          [Document.choiceLine c.selectorId u.index]⟩ := by
  obtain ⟨n, hat, hlen⟩ :=
    exists_menu_link (c := c) h.menu x.shown (d.body.locate? c.stylesheetId)
  have hu : u.index < (Chooser.selectFor c t).options.length := by
    rw [Chooser.options_selectFor]
    cases u <;> simp [Theme.index]
  have hb : (x.on c d).body.modifyAt (·.choose u.index) (m ++ [menu.children.length])
      = (({ x with select := some u } : Imprint).on c d).body := by
    rw [body_of_select h hx, ← hlen, Element.modifyAt_append_last _ hat,
      Chooser.choose_selectFor, body_of_select h rfl]
  have hl : (x.on c d).LeadsTo c.selectorId (m ++ [menu.children.length]) (Chooser.selectFor c t) :=
    ⟨locate?_select h hx, find?_select h hx⟩
  rw [Document.choose_of_leadsTo hl (Chooser.isSelect_selectFor c t) hu, Document.chooseAt, hb]

theorem choose_on_of_le (h : Ready c d m l menu) (hx : x.select = some t) {i : Nat} (hi : 2 ≤ i) :
    (x.on c d).choose c.selectorId i
      = ⟨.error (.optionOutOfRange c.selectorId i 2), x.on c d, []⟩ := by
  have hlen : (Chooser.selectFor c t).options.length = 2 := by
    rw [Chooser.options_selectFor]
    rfl
  have hl : (x.on c d).LeadsTo c.selectorId (m ++ [menu.children.length]) (Chooser.selectFor c t) :=
    ⟨locate?_select h hx, find?_select h hx⟩
  rw [← hlen] at hi
  rw [Document.choose_of_no_option hl (Chooser.isSelect_selectFor c t) hi, hlen]

/-! ## Picks -/

section Picks

variable {s : Chooser Document}

theorem marks_pick (h : Ready c d m l menu) (hs : x.Marks c d s) (hx : x.select = some t)
    (u : Theme) :
    (s.pick u.index).result = .ok (some u) ∧
      (⟨some u, some u⟩ : Imprint).Marks c d (s.pick u.index).after ∧
      (s.pick u.index).after.selected = u := by
  have hchoose : s.page.choose s.config.selectorId u.index
      = ⟨.ok u.index, ({ x with select := some u } : Imprint).on c d,
          [Document.choiceLine c.selectorId u.index]⟩ := by
    rw [hs.page, hs.config, choose_on h hx u]
  -- the chooser hears of the choice on the page where the mark has moved
  have hs' : ({ x with select := some u } : Imprint).Marks c d
      { s with page := ({ x with select := some u } : Imprint).on c d } :=
    ⟨hs.config, rfl, by rw [hs.installed, hx]; rfl⟩
  obtain ⟨hr, hmarks, hsel⟩ := marks_apply h.select_ne_link hs' h.link_at u
  have hu : (Command.change u.index).theme? = some u := Theme.ofIndex?_index u
  obtain ⟨hpick, hpick'⟩ := Chooser.pick_of_choose hchoose
  rw [hpick, hpick', (Chooser.perform_of_theme hu).1, (Chooser.perform_of_theme hu).2, hr]
  exact ⟨congrArg Except.ok hu, hmarks, hsel⟩

theorem pick_of_le (h : Ready c d m l menu) (hs : x.Marks c d s) (hx : x.select = some t)
    {i : Nat} (hi : 2 ≤ i) :
    (s.pick i).result = .error (.page (.optionOutOfRange c.selectorId i 2)) ∧
      (s.pick i).after = s := by
  have hchoose : s.page.choose s.config.selectorId i
      = ⟨.error (.optionOutOfRange c.selectorId i 2), s.page, []⟩ := by
    rw [hs.page, hs.config, choose_on_of_le h hx hi]
  exact Chooser.pick_of_refused hchoose

/-- After any run the select was, as far as the document tells, built with the theme in use; and
once a pick was taken, that theme is linked. -/
theorem afterGestures_marks (h : Ready c d m l menu) (gs : List Gesture)
    (hs : (⟨x.shown, some s.selected⟩ : Imprint).Marks c d s) :
    ∃ o, (⟨o, some (s.afterGestures gs).selected⟩ : Imprint).Marks c d (s.afterGestures gs) ∧
      ((∃ i < 2, .pick i ∈ gs) → o = some (s.afterGestures gs).selected) := by
  induction gs using List.reverseRecOn with
  | nil => exact ⟨x.shown, hs, fun ⟨i, _, hi⟩ => absurd hi List.not_mem_nil⟩
  | append_singleton gs g ih =>
    obtain ⟨o, hmarks, hshown⟩ := ih
    have hlast : s.afterGestures (gs ++ [g]) = ((s.afterGestures gs).gesture g).after := by
      rw [Chooser.afterGestures, List.foldl_append]
      rfl
    rw [hlast]
    generalize s.afterGestures gs = s' at hmarks hshown
    cases g with
    | install =>
      have hi : s'.installed = true := hmarks.installed
      have hafter : (s'.gesture .install).after = s' := (Chooser.install_of_installed hi).2
      rw [hafter]
      refine ⟨o, hmarks, ?_⟩
      rintro ⟨i, hlt, hmem⟩
      exact hshown ⟨i, hlt, by simpa using hmem⟩
    | pick i =>
      have hg : (s'.gesture (.pick i)).after = (s'.pick i).after := rfl
      rw [hg]
      cases hi : Theme.ofIndex? i with
      | none =>
        have hle := Theme.ofIndex?_eq_none_iff.1 hi
        obtain ⟨_, hafter⟩ := pick_of_le h hmarks rfl hle
        rw [hafter]
        refine ⟨o, hmarks, ?_⟩
        rintro ⟨j, hlt, hmem⟩
        have hj : .pick j ∈ gs := by
          rcases List.mem_append.1 hmem with hmem | hmem
          · exact hmem
          · simp only [List.mem_singleton, Gesture.pick.injEq] at hmem
            omega
        exact hshown ⟨j, hlt, hj⟩
      | some u =>
        obtain rfl := Theme.ofIndex?_eq_some_iff.1 hi
        obtain ⟨_, hmarks', hsel⟩ := marks_pick h hmarks rfl u
        rw [hsel]
        exact ⟨some u, hmarks', fun _ => rfl⟩

end Picks

end Imprint

namespace Chooser

open Imprint

/-- The id of the select leads to the new last child of the menu, a select with two options, of
which that of the theme in use, and no other, is chosen. -/
structure Shown (c : Config) (d : Document) (s : Chooser Document) : Prop where
  place : ∃ m menu, d.body.locate? c.menuId = some m ∧ d.body.at? m = some menu ∧
    s.page.body.locate? c.selectorId = some (m ++ [menu.children.length])
  select : ∃ e, s.page.find? c.selectorId = some e ∧ e = selectFor c s.selected ∧
    e.selectedIndex? = some s.selected.index ∧ e.options.length = 2 ∧
    e.options.countP Element.isChosen = 1

theorem shown_of_marks {c : Config} {d : Document} {m l : Address} {menu : Element}
    {s : Chooser Document} {o : Option Theme} (h : Ready c d m l menu)
    (hs : (⟨o, some s.selected⟩ : Imprint).Marks c d s) : Shown c d s := by
  refine ⟨⟨m, menu, h.menu_at, h.menu, ?_⟩, ⟨selectFor c s.selected, ?_, rfl, ?_, ?_, ?_⟩⟩
  · rw [hs.page, locate?_select h rfl]
  · rw [hs.page, find?_select h rfl]
  · exact selectedIndex?_selectFor c s.selected
  · rw [options_selectFor]
    rfl
  · exact countP_isChosen_selectFor c s.selected

/-- **Picks keep the select, the theme in use and the link in agreement.** A pick of one of the two
options is taken and returns its theme; any other pick is refused and changes nothing. -/
theorem picks_agree (c : Config) (d : Document) (hm : (d.find? c.menuId).isSome)
    (hl : (d.find? c.stylesheetId).isSome) (hn : ∀ n ∈ d.body.nodes, n.id ≠ some c.selectorId)
    (gs : List Gesture) :
    let s := (ofPage d c).install.after.afterGestures gs
    (ofPage d c).install.result = .ok () ∧
    Shown c d s ∧
    ((∃ i < 2, .pick i ∈ gs) →
      Page.getAttribute s.page c.stylesheetId "href"
        = .ok (some (c.catalog.entry s.selected).path)) ∧
    (∀ i < 2, ∃ t : Theme, t.index = i ∧ (s.pick i).result = .ok (some t)) ∧
    (∀ i, 2 ≤ i →
      (s.pick i).result = .error (.page (.optionOutOfRange c.selectorId i 2)) ∧
        (s.pick i).after = s) := by
  obtain ⟨m, l, menu, h⟩ := exists_ready hm hl hn
  obtain ⟨hr, hmarks, hsel⟩ :=
    marks_install h.select_ne_link (marks_ofPage c d) rfl h.menu_at
  rw [← hsel] at hmarks
  obtain ⟨o, hmarks', hshown⟩ := afterGestures_marks h gs hmarks
  intro s
  refine ⟨hr, shown_of_marks h hmarks', ?_, ?_, ?_⟩
  · intro hpick
    rw [hmarks'.page]
    exact getAttribute_on_of_shown h.select_ne_link h.link_at (hshown hpick)
  · intro i hi
    obtain ⟨t, ht⟩ : ∃ t, Theme.ofIndex? i = some t := by
      cases ht : Theme.ofIndex? i with
      | none => exact absurd (Theme.ofIndex?_eq_none_iff.1 ht) (by omega)
      | some t => exact ⟨t, rfl⟩
    obtain rfl := Theme.ofIndex?_eq_some_iff.1 ht
    exact ⟨t, rfl, (marks_pick h hmarks' rfl t).1⟩
  · intro i hi
    exact pick_of_le h hmarks' rfl hi

/-- The link within the menu, two picks of which one is refused, and a second `install`. -/
theorem picks_agree_nested :
    let link : Element := { tag := "link", id := some "color_css" }
    let d := Document.ofElements [{ tag := "div", id := some "menu", children := [link] }]
    let s := (ofPage d {}).install.after.afterGestures [.pick 1, .pick 7, .install]
    s.selected = .dark ∧ Shown {} d s ∧
      Page.getAttribute s.page "color_css" "href" = .ok (some "./css/dark.css") ∧
      (∃ t : Theme, t.index = 0 ∧ (s.pick 0).result = .ok (some t)) ∧
      (s.pick 7).after = s := by
  intro link d s
  obtain ⟨-, hshown, hhref, htaken, hrefused⟩ :=
    picks_agree {} d (by decide) (by decide) (by decide) [.pick 1, .pick 7, .install]
  have hdark : s.selected = .dark := by decide
  have hlink := hhref ⟨1, by decide, by decide⟩
  rw [hdark] at hlink
  exact ⟨hdark, hshown, hlink, htaken 0 (by decide), (hrefused 7 (by decide)).2⟩

end Chooser
end ThemeMenu
