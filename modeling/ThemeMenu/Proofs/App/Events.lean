import Mathlib.Data.List.Infix
import ThemeMenu.App.Run
import ThemeMenu.Proofs.App.Agreement
import ThemeMenu.Proofs.Chooser.Select
import ThemeMenu.Proofs.Text.Numeral

/-!
# ThemeMenu.Proofs.App.Events

The application while its select is used. An event names a theme when its value is a numeral for
the position of the theme. Whatever the events are, only the stylesheet of the link changes on
screen, and it is that of the theme named last.

* `Theme.Named`, `Session.LastNamed`: the theme an event names, and the last one named.
* `Session.screen`: the screen as a function of the stylesheet that is linked.
* `html_of_follows`: a session whose link follows the theme in use shows that screen.
* `pick_of_follows`, `afterEvents_of_follows`: one event, and all of them.
* `App.events_move_the_link_alone`: the application with its shipped settings.
-/

namespace ThemeMenu

/-- An event with this value names the theme. -/
def Theme.Named (value : String) (t : Theme) : Prop := Numeral.Writes value t.index

/-- The theme whose position a value writes, if there is one. -/
def Theme.named? (value : String) : Option Theme := (numeral? value).bind Theme.ofIndex?

theorem Theme.named?_eq_some_iff {value : String} {t : Theme} :
    Theme.named? value = some t ↔ Theme.Named value t := by
  have hle : t.index ≤ Numeral.limit := by cases t <;> decide
  simp only [named?, Option.bind_eq_some_iff, ofIndex?_eq_some_iff, numeral?_eq_some_iff, Named]
  constructor
  · rintro ⟨i, ⟨hw, -⟩, rfl⟩
    exact hw
  · intro hw
    exact ⟨t.index, ⟨hw, hle⟩, rfl⟩

theorem Theme.named?_eq_none_iff {value : String} :
    Theme.named? value = none ↔ ∀ t, ¬ Theme.Named value t := by
  rw [Option.eq_none_iff_forall_ne_some]
  exact forall_congr' fun t => not_congr named?_eq_some_iff

namespace Session

/-- The last theme that the events name, or the light one while none is named. -/
def LastNamed (events : List String) (t : Theme) : Prop :=
  (∃ before value after, events = before ++ value :: after ∧ Theme.Named value t ∧
    ∀ v ∈ after, ∀ u, ¬ Theme.Named v u) ∨
  ((∀ v ∈ events, ∀ u, ¬ Theme.Named v u) ∧ t = .light)

def lastNamed? (events : List String) : Option Theme := events.reverse.findSome? Theme.named?

theorem lastNamed?_concat (events : List String) (value : String) :
    lastNamed? (events ++ [value]) = (Theme.named? value).or (lastNamed? events) := by
  simp only [lastNamed?, List.reverse_append, List.reverse_singleton, List.singleton_append,
    List.findSome?_cons]
  cases Theme.named? value <;> rfl

theorem lastNamed_of_lastNamed? (events : List String) :
    LastNamed events ((lastNamed? events).getD .light) := by
  cases h : lastNamed? events with
  | none =>
    right
    refine ⟨?_, rfl⟩
    intro v hv
    rw [← Theme.named?_eq_none_iff]
    exact List.findSome?_eq_none_iff.1 h v (List.mem_reverse.2 hv)
  | some t =>
    left
    obtain ⟨after, value, before, hevents, hvalue, hafter⟩ := List.findSome?_eq_some_iff.1 h
    refine ⟨before.reverse, value, after.reverse, ?_, Theme.named?_eq_some_iff.1 hvalue, ?_⟩
    · rw [← List.reverse_reverse events, hevents]
      simp
    · intro v hv
      exact Theme.named?_eq_none_iff.1 (hafter v (List.mem_reverse.1 hv))

/-! ## The screen -/

/-- The application on screen with its select as it was built for the light theme. -/
def screen (c : Config) (href : String) : List Html :=
  [.void "link" [.value "id" c.stylesheetId, .value "rel" "stylesheet", .value "href" href],
    .element "div" [.value "class" "container"]
      [.element "header" [.value "class" "header"]
        [.element "h1" [] [.text "Theme Switcher"],
          .element "div" [.value "id" c.menuId, .value "class" "menu"]
            [.element "select" [.value "id" c.selectorId, .value "class" "custom-select"]
              [.element "option" [.value "value" "0", .flag "selected" true]
                [.text c.light.label],
                .element "option" [.value "value" "1", .flag "selected" false]
                  [.text c.dark.label]]]],
        .element "div" [.value "class" "mainarea"]
          [.element "p" []
            [.text "Pick a theme from the menu to swap the page stylesheet."]],
        .element "footer" [.value "class" "footer"] []]]

open Chooser

variable {c : Config} {s : Session}

theorem htmlOf_selectFor (c : Config) :
    Control.htmlOf (selectFor c .light)
      = [.element "select" [.value "id" c.selectorId, .value "class" "custom-select"]
          [.element "option" [.value "value" "0", .flag "selected" true] [.text c.light.label],
            .element "option" [.value "value" "1", .flag "selected" false]
              [.text c.dark.label]]] := by
  have hc : Control.ofElement? (selectFor c .light)
      = some ⟨c.selectorId, [⟨0, true, c.light.label⟩, ⟨1, false, c.dark.label⟩]⟩ := by
    simp only [Control.ofElement?, isSelect_selectFor, options_selectFor, Choice.ofOptions,
      isChosen_optionFor, if_true]
    rfl
  have h0 : toString 0 = "0" := rfl
  have h1 : toString 1 = "1" := rfl
  simp only [Control.htmlOf, hc, Control.html, List.map_cons, List.map_nil, Choice.html, h0, h1]

theorem html_of_follows (hs : Follows c (some .light) s.chooser) (he : s.error = none) :
    s.html = screen c (c.catalog.entry s.chooser.selected).path := by
  have hmenu : s.chooser.page.menuId = c.menuId := hs.named.menuId_eq
  have hlink : s.chooser.page.linkId = c.stylesheetId := hs.named.linkId_eq
  have hhref : s.chooser.page.href = (c.catalog.entry s.chooser.selected).path := by
    rw [Shell.href, hs.href]
    rfl
  have hselect : s.chooser.page.inMenu = [selectFor c .light] := hs.menu
  simp [html, screen, hmenu, hlink, hhref, hselect, he, errorHtml, htmlOf_selectFor]

/-! ## Events -/

def afterEvents (s : Session) (events : List String) : Session := events.foldl pick s

theorem afterEvents_concat (s : Session) (events : List String) (value : String) :
    s.afterEvents (events ++ [value]) = (s.afterEvents events).pick value := by
  simp [afterEvents]

/-- An event that names a theme puts it into use, any other changes nothing. -/
theorem pick_of_follows {o : Option Theme} (h : c.menuId ≠ c.stylesheetId)
    (hs : Follows c o s.chooser) (he : s.error = none) (value : String) :
    Follows c o (s.pick value).chooser ∧ (s.pick value).error = none ∧
      (s.pick value).chooser.selected = (Theme.named? value).getD s.chooser.selected := by
  unfold pick Theme.named?
  cases hv : numeral? value with
  | none => exact ⟨hs, he, rfl⟩
  | some i =>
    cases ht : Theme.ofIndex? i with
    | none =>
      obtain ⟨hr, hafter⟩ := change_of_no_theme (s := s.chooser) ht
      simp only [hr, hafter, ht, Option.bind_some, Option.getD_none]
      exact ⟨hs, trivial, trivial⟩
    | some t =>
      obtain ⟨hr, hf⟩ := follows_apply h hs t
      have hsel : (s.chooser.apply t).after.selected = t := selected_apply hr
      obtain ⟨hres, hafter⟩ := change_of_theme (s := s.chooser) ht
      simp only [hres, hafter, ht, hr, Except.map, Option.bind_some, Option.getD_some]
      exact ⟨hf, trivial, hsel⟩

theorem afterEvents_of_follows {o : Option Theme} (h : c.menuId ≠ c.stylesheetId)
    (hs : Follows c o s.chooser) (he : s.error = none) (events : List String) :
    Follows c o (s.afterEvents events).chooser ∧ (s.afterEvents events).error = none ∧
      (s.afterEvents events).chooser.selected
        = (lastNamed? events).getD s.chooser.selected := by
  induction events using List.reverseRecOn with
  | nil => exact ⟨hs, he, rfl⟩
  | append_singleton events value ih =>
    obtain ⟨hf, herr, hsel⟩ := ih
    obtain ⟨hf', herr', hsel'⟩ := pick_of_follows h hf herr value
    rw [afterEvents_concat, lastNamed?_concat]
    refine ⟨hf', herr', ?_⟩
    rw [hsel', hsel]
    cases Theme.named? value <;> rfl

theorem install_ofConfig (h : c.menuId ≠ c.stylesheetId) :
    Follows c (some .light) (ofConfig c).install.chooser ∧ (ofConfig c).install.error = none ∧
      (ofConfig c).install.chooser.selected = .light := by
  have hlinked : (ofConfig c).chooser.linkedTheme = .light := by
    have hlight : c.catalog.themeWithPath? (c.catalog.entry .light).path = some .light :=
      Catalog.themeWithPath?_eq_light_iff.2 rfl
    exact (linkedTheme_of_follows h (follows_ofPage c)).trans
      (congrArg (·.getD .light) hlight)
  have hp : Page.appendChild (ofConfig c).chooser.page c.menuId
      (selectFor c (ofConfig c).chooser.linkedTheme)
      = ⟨.ok (), { (Shell.ofConfig c) with
          menu := (Shell.ofConfig c).menu.append (selectFor c .light) }, []⟩ := by
    rw [hlinked]
    exact Shell.edit_menu _ rfl
  obtain ⟨hr, hafter⟩ := install_eq_ok (s := (ofConfig c).chooser) rfl hp
  simp only [install, hr, hafter, hlinked]
  exact ⟨⟨rfl, ⟨rfl, rfl⟩, rfl, rfl, rfl⟩, rfl, trivial⟩

end Session

namespace App

open Session

/-- The shipped document holds the built-in values. -/
theorem shipped_eq : Setup.shipped = {} := by decide +kernel

theorem html_eventFrames (s : Session) (events : List String) :
    (eventFrames s events).map Frame.html
      = events.inits.tail.map fun es => Html.renderAll (s.afterEvents es).html := by
  induction events generalizing s with
  | nil => rfl
  | cons value values ih =>
    have hinits : (value :: values).inits.tail = values.inits.map (value :: ·) := by simp
    have hfirst : values.inits = [] :: values.inits.tail := by cases values <;> simp
    rw [hinits, eventFrames, List.map_cons, ih, hfirst]
    simp [frame, Session.afterEvents, Function.comp_def]

/-- **The application while its select is used.** After any events the screen is the one right
after the select came in, but for the stylesheet of the link; that is the stylesheet of the theme
named last, or the light one. The menu holds the same select with the light theme chosen, and no
error is shown. The frames of a run show this after each event. -/
theorem events_move_the_link_alone (events : List String) :
    (App.start.install).html = screen {} "./css/light.css" ∧
    (∃ t, LastNamed events t ∧
      (afterEvents events).html = screen {} ((Catalog.entry {} t).path)) ∧
    (afterEvents events).chooser.page.inMenu = [Chooser.selectFor {} .light] ∧
    (afterEvents events).error = none ∧
    (frames events).tail.map Frame.html
      = events.inits.map fun es => Html.renderAll (afterEvents es).html := by
  have hne : ({} : Config).menuId ≠ ({} : Config).stylesheetId := by decide
  have hstart : start = ofConfig {} := by rw [start, shipped_eq]
  obtain ⟨hf, he, hsel⟩ := install_ofConfig (c := {}) hne
  rw [← hstart] at hf he hsel
  obtain ⟨hf', he', hsel'⟩ := afterEvents_of_follows hne hf he events
  refine ⟨?_, ⟨_, lastNamed_of_lastNamed? events, ?_⟩, ?_, ?_, ?_⟩
  · rw [html_of_follows hf he, hsel]
    rfl
  · have hlast : (start.install.afterEvents events).html
        = screen {} (Catalog.entry {} ((lastNamed? events).getD .light)).path := by
      rw [html_of_follows hf' he', hsel', hsel]
      rfl
    exact hlast
  · exact hf'.menu
  · exact he'
  · have hhtml := html_eventFrames start.install events
    have hfirst : events.inits = [] :: events.inits.tail := by cases events <;> simp
    rw [hfirst]
    simp only [frames, List.tail_cons, List.map_cons, hhtml, frame, App.afterEvents,
      Session.afterEvents, List.foldl_nil]

end App
end ThemeMenu
