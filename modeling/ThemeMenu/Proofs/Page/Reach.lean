import ThemeMenu.Proofs.Chooser.Failure
import ThemeMenu.Proofs.Page.Cells
import ThemeMenu.Proofs.Page.Insertion

/-!
# ThemeMenu.Proofs.Page.Reach

Which elements of a page can be addressed. On a document every element can whose id no other
element carries. On the application's page it is the menu and the link for good: whatever is
appended is on screen, but its id leads nowhere.

* `Page.Reaches`, `Page.Denies`: an id under which an element is read and written, and an id under
  which every operation fails.
* `Page.afterEdits`: a page after a run of changes, of which some may fail.
* `Document.reaches_appendChild`: on a document, what was appended is reached.
* `Shell.reaches_roots_alone`: on the application's page it is not.
-/

namespace ThemeMenu

namespace Page

variable {π : Type} [Page π] {p : π} {id : String} {e : Element}

/-- Under the id, the element is read, and what is written to it is read again. -/
structure Reaches (p : π) (id : String) (e : Element) : Prop where
  read : ∀ name, getAttribute p id name = .ok (e.attribute? name)
  write : ∀ name value, ∃ q, setAttribute p id name value = ⟨.ok (), q, []⟩ ∧
    ∀ name', getAttribute q id name' = .ok ((e.setAttribute name value).attribute? name')

structure Denies (p : π) (id : String) : Prop where
  append : ∀ child, appendChild p id child = ⟨.error (.elementNotFound id), p, []⟩
  write : ∀ name value, setAttribute p id name value = ⟨.error (.elementNotFound id), p, []⟩
  read : ∀ name, getAttribute p id name = .error (.elementNotFound id)

theorem denies_iff : Denies p id ↔ element? p id = none := by
  constructor
  · intro h
    exact (getAttribute_eq_error_iff.1 (h.read "")).1
  · intro h
    exact ⟨fun _ => edit_of_none _ h, fun _ _ => edit_of_none _ h,
      fun _ => getAttribute_eq_error_iff.2 ⟨h, rfl⟩⟩

theorem Reaches.not_denies (h : Reaches p id e) : ¬ Denies p id := by
  intro hd
  have hread := h.read ""
  rw [hd.read] at hread
  cases hread

/-- An element that is found again after a change of its attributes is reached. -/
theorem reaches_of_element? (h : element? p id = some e)
    (hedit : ∀ name value, element? (setAttribute p id name value).after id
      = some (e.setAttribute name value)) : Reaches p id e := by
  refine ⟨getAttribute_of_element? h, ?_⟩
  intro name value
  obtain ⟨-, q, hq⟩ | ⟨hn, -⟩ := setAttribute_ok_or_error p id name value
  · have hfound := hedit name value
    rw [hq] at hfound
    exact ⟨q, hq, getAttribute_of_element? hfound⟩
  · rw [hn] at h
    cases h

/-- A page after a change, which may fail. -/
def afterEdit (p : π) (edit : Edit) : π := (edit.on p).after

def afterEdits (p : π) (edits : List Edit) : π := edits.foldl afterEdit p

end Page

open Page (Reaches Denies)

/-! ## Documents -/

namespace Document

variable {d : Document} {id parent : String} {e : Element}

/-- A change that keeps the id of an element is found under that id. -/
theorem find?_after_edit (f : Element → Element) (hf : ∀ n, (f n).id = n.id)
    (he : d.find? id = some e) : (Page.edit d id f).after.find? id = some (f e) := by
  obtain ⟨a, ha⟩ := exists_locate? (Option.isSome_iff_exists.2 ⟨e, he⟩)
  have hat : d.body.at? a = some e := (find?_of_locate? ha).symm.trans he
  have hsame : (d.body.modifyAt f a).locate? id = some a := Element.locate?_modifyAt_self hf ha
  rw [edit_of_locate? f ha, find?_of_locate? hsame, Element.at?_modifyAt, hat]
  rfl

theorem reaches_of_find? (he : d.find? id = some e) : Reaches d id e := by
  apply Page.reaches_of_element? he
  intro name value
  exact find?_after_edit (·.setAttribute name value) (fun _ => rfl) he

/-- What is appended to a document under a new id is reached under that id. -/
theorem reaches_appendChild (hparent : (d.find? parent).isSome) (hfree : d.find? id = none)
    (hid : e.id = some id) :
    ∃ q, Page.appendChild d parent e = ⟨.ok (), q, []⟩ ∧ Reaches q id e := by
  obtain ⟨a, n, h⟩ := exists_leadsTo hparent
  obtain ⟨ha, hn⟩ := leadsTo_iff.1 h
  have hnone : ∀ m ∈ d.body.nodesThrough a, m.id ≠ some id := fun m hm =>
    Element.find?_eq_none_iff.1 hfree m (mem_nodes_of_mem_nodesThrough hn hm)
  have hnew : (d.insertAt a e).LeadsTo id (a ++ [n.children.length]) e :=
    (leadsTo_insertAt_iff hn (Element.locate?_eq_nil hid)).2 hnone
  exact ⟨d.insertAt a e, edit_of_locate? _ ha, reaches_of_find? hnew.element⟩

end Document

/-! ## The application's page -/

namespace Shell

/-- No element of the page carries the id. -/
def Free (p : Shell) (id : String) : Prop := ∀ n ∈ p.menu.nodes ++ p.link.nodes, n.id ≠ some id

variable {c : Config} {p : Shell} {id : String} {e : Element}

theorem Named.afterEdit (hp : Named c p) (edit : Edit) : Named c (Page.afterEdit p edit) := by
  cases edit with
  | append parent child => exact hp.appendChild parent child
  | write id name value => exact hp.setAttribute id name value

theorem Named.afterEdits (hp : Named c p) (edits : List Edit) :
    Named c (Page.afterEdits p edits) := by
  induction edits generalizing p with
  | nil => exact hp
  | cons edit edits ih => exact ih (hp.afterEdit edit)

theorem Named.element?_eq_none_iff (hp : Named c p) :
    Page.element? p id = none ↔ id ≠ c.menuId ∧ id ≠ c.stylesheetId := by
  show element? p id = none ↔ _
  simp only [element?, hp.menu_id, hp.link_id, Option.some_inj]
  by_cases hm : c.menuId = id
  · simp [hm]
  · by_cases hl : c.stylesheetId = id
    · simp [hm, hl]
    · simp [hm, hl, Ne.symm hm, Ne.symm hl]

theorem Named.denies_iff (hp : Named c p) :
    Denies p id ↔ id ≠ c.menuId ∧ id ≠ c.stylesheetId := by
  rw [Page.denies_iff, hp.element?_eq_none_iff]

theorem element?_after_edit (f : Element → Element) (hf : ∀ n, (f n).id = n.id)
    (he : Page.element? p id = some e) :
    Page.element? (Page.edit p id f).after id = some (f e) := by
  obtain ⟨hm, hq⟩ | ⟨hm, hl, hq⟩ | ⟨hm, hl, -⟩ := edit_cases p id f
  · rw [element?_menu hm] at he
    cases he
    rw [hq]
    exact element?_menu ((hf p.menu).trans hm)
  · rw [element?_link hm hl] at he
    cases he
    rw [hq]
    exact element?_link hm ((hf p.link).trans hl)
  · rw [element?_none hm hl] at he
    cases he

theorem reaches_of_element? (he : Page.element? p id = some e) : Reaches p id e := by
  apply Page.reaches_of_element? he
  intro name value
  exact element?_after_edit (·.setAttribute name value) (fun _ => rfl) he

theorem Named.reaches_iff (hp : Named c p) :
    (∃ e, Reaches p id e) ↔ id = c.menuId ∨ id = c.stylesheetId := by
  constructor
  · rintro ⟨e, he⟩
    have hd := he.not_denies
    rw [hp.denies_iff] at hd
    by_cases hm : id = c.menuId
    · exact .inl hm
    · exact .inr (Classical.byContradiction fun hl => hd ⟨hm, hl⟩)
  · intro h
    cases he : Page.element? p id with
    | some e => exact ⟨e, reaches_of_element? he⟩
    | none =>
      obtain ⟨hm, hl⟩ := hp.element?_eq_none_iff.1 he
      exact absurd h (not_or.2 ⟨hm, hl⟩)

theorem Free.ne (hp : Named c p) (h : p.Free id) : id ≠ c.menuId ∧ id ≠ c.stylesheetId := by
  have hmenu := h p.menu (by simp [Element.nodes_eq])
  have hlink := h p.link (by simp [Element.nodes_eq])
  rw [hp.menu_id] at hmenu
  rw [hp.link_id] at hlink
  exact ⟨fun he => hmenu (congrArg some he.symm), fun he => hlink (congrArg some he.symm)⟩

theorem appendChild_menu (child : Element) (hp : Named c p) :
    Page.appendChild p c.menuId child = ⟨.ok (), { p with menu := p.menu.append child }, []⟩ :=
  edit_menu _ hp.menu_id

theorem Free.denies (hp : Named c p) (h : p.Free id) (child : Element) (edits : List Edit) :
    Denies (Page.afterEdits { p with menu := p.menu.append child } edits) id := by
  have hq : Named c { p with menu := p.menu.append child } := ⟨hp.menu_id, hp.link_id⟩
  exact (hq.afterEdits edits).denies_iff.2 (h.ne hp)

theorem Named.perform {s : Chooser Shell} (hp : Named c s.page) (call : Command) :
    Named c (s.perform call).after.page := by
  apply Chooser.page_perform_preserves hp
  · intro t
    exact hp.appendChild _ _
  · intro id name value
    exact hp.setAttribute id name value

theorem install_inMenu {s : Chooser Shell} (hp : Named s.config s.page) (hi : s.installed = false) :
    s.install.result = .ok () ∧
      ∃ t, s.install.after.page.inMenu = s.page.inMenu ++ [Chooser.selectFor s.config t] := by
  have hok := appendChild_menu (Chooser.selectFor s.config s.linkedTheme) hp
  obtain ⟨hr, hafter⟩ := Chooser.install_eq_ok hi hok
  rw [hafter]
  exact ⟨hr, s.linkedTheme, rfl⟩

/-- **What can be addressed on the application's page.** After any changes, menu and link are reached
and nothing else. What is appended to the menu is on screen, but an id that was new stays without an
element for good; and so does the id of the select of a chooser, unless it is that of the menu or of
the link. On a document the same elements would be reached (`Document.reaches_appendChild`). -/
theorem reaches_roots_alone (c : Config) (edits : List Edit) (id : String) :
    let p := Page.afterEdits (ofConfig c) edits
    ((∃ e, Reaches p id e) ↔ id = c.menuId ∨ id = c.stylesheetId) ∧
    (Denies p id ↔ id ≠ c.menuId ∧ id ≠ c.stylesheetId) ∧
    (p.Free id → ∀ child,
      ∃ q, Page.appendChild p c.menuId child = ⟨.ok (), q, []⟩ ∧ q.inMenu = p.inMenu ++ [child] ∧
        ∀ more, Denies (Page.afterEdits q more) id) ∧
    ∀ s : Chooser Shell, s.page = p → s.config = c → s.installed = false →
      s.install.result = .ok () ∧
        (∃ t, s.install.after.page.inMenu = p.inMenu ++ [Chooser.selectFor c t]) ∧
        (Denies s.install.after.page c.selectorId ↔
          c.selectorId ≠ c.menuId ∧ c.selectorId ≠ c.stylesheetId) := by
  intro p
  have hp : Named c p := (named_ofConfig c).afterEdits edits
  refine ⟨hp.reaches_iff, hp.denies_iff, ?_, ?_⟩
  · intro hfree child
    exact ⟨_, appendChild_menu child hp, rfl, hfree.denies hp child⟩
  · rintro s hpage rfl hi
    rw [← hpage] at hp ⊢
    obtain ⟨hr, hmenu⟩ := install_inMenu hp hi
    exact ⟨hr, hmenu, (hp.perform .install).denies_iff⟩

/-- A badge that is put into the menu, and the select of the application. -/
theorem reaches_roots_alone_badge :
    let badge : Element := { tag := "span", id := some "badge", attributes := ⟨[("class", "new")]⟩ }
    (∃ q, Page.appendChild (ofConfig {}) "menu" badge = ⟨.ok (), q, []⟩ ∧ q.inMenu = [badge] ∧
      Denies q "badge") ∧
    Denies (Chooser.ofPage (ofConfig {}) {}).install.after.page "menu_select" := by
  intro badge
  obtain ⟨-, -, happend, hselect⟩ := reaches_roots_alone {} [] "badge"
  obtain ⟨q, hq, hmenu, hdenies⟩ := happend (by unfold Free; decide) badge
  obtain ⟨-, -, hiff⟩ := hselect (Chooser.ofPage (ofConfig {}) {}) rfl rfl rfl
  exact ⟨⟨q, hq, hmenu, hdenies []⟩, hiff.2 ⟨by decide, by decide⟩⟩

/-- So an element that was put into the menu cannot be counted on to be reached. -/
theorem appended_not_reached :
    ¬ ∀ (c : Config) (edits : List Edit) (id : String) (e : Element) (q : Shell),
      (Page.afterEdits (ofConfig c) edits).Free id → e.id = some id →
        Page.appendChild (Page.afterEdits (ofConfig c) edits) c.menuId e = ⟨.ok (), q, []⟩ →
          Reaches q id e := by
  intro h
  let badge : Element := { tag := "span", id := some "badge" }
  have hreaches := h {} [] "badge" badge _ (by unfold Free; decide) rfl rfl
  have hread := hreaches.read "class"
  cases hread

end Shell
end ThemeMenu
