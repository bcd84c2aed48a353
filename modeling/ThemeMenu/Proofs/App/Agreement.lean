import Mathlib.Data.List.Induction
import ThemeMenu.Proofs.App.Action
import ThemeMenu.Proofs.Page.Cells
import ThemeMenu.Proofs.Tree.Commute

/-!
# ThemeMenu.Proofs.App.Agreement

The stylesheet on screen and the theme in use. A session keeps the theme in its chooser and the
stylesheet in the link of its page, and `install` reads the first back from the second.

* `Follows`: what every run keeps while menu and link have different ids. The link shows the theme
  in use, so what `install` reads back has the stylesheet that is linked already.
* `Captured`: what every run keeps when the two ids are equal. The menu answers for the link, which
  stays as it was.
* `link_follows_selected`: every run of a session, in both cases.
-/

namespace ThemeMenu

/-- A theme read back from the path of a theme has that path, even where both themes share it. -/
theorem Catalog.path_themeWithPath? (k : Catalog) (t : Theme) :
    (k.entry ((k.themeWithPath? (k.entry t).path).getD .light)).path = (k.entry t).path := by
  by_cases h : k.light.path = (k.entry t).path
  · rw [themeWithPath?_eq_light_iff.2 h]
    exact h
  · cases t with
    | light => exact absurd rfl h
    | dark =>
      have hd : k.themeWithPath? (k.entry .dark).path = some .dark :=
        themeWithPath?_eq_dark_iff.2 ⟨rfl, h⟩
      rw [hd]
      rfl

namespace Chooser

variable {c : Config} {s : Chooser Shell} {o : Option Theme} {call : Command}

/-! ## Different ids -/

/-- A chooser whose link shows the theme in use; its menu holds the select that was built with the
theme `o`, or nothing. -/
structure Follows (c : Config) (o : Option Theme) (s : Chooser Shell) : Prop where
  config : s.config = c
  named : Shell.Named c s.page
  href : s.page.link.attribute? "href" = some (c.catalog.entry s.selected).path
  menu : s.page.inMenu = (o.map (selectFor c)).toList
  installed : s.installed = o.isSome

theorem follows_ofPage (c : Config) : Follows c none (ofPage (Shell.ofConfig c) c) :=
  ⟨rfl, Shell.named_ofConfig c, Shell.href_ofConfig c, rfl, rfl⟩

section Follows

theorem follows_apply (h : c.menuId ≠ c.stylesheetId) (hs : Follows c o s) (t : Theme) :
    (s.apply t).result = .ok () ∧ Follows c o (s.apply t).after := by
  have hcat : s.catalog = c.catalog := catalog_of_config hs.config
  have hp : Page.setAttribute s.page s.config.stylesheetId "href" (s.catalog.entry t).path
      = ⟨.ok (), { s.page with link := s.page.link.setAttribute "href" (c.catalog.entry t).path },
          []⟩ := by
    rw [hs.config, hcat]
    exact Shell.edit_link _ (hs.named.menu_ne h.symm) hs.named.link_id
  obtain ⟨hr, hafter⟩ := apply_eq_ok hp
  rw [hafter]
  exact ⟨hr, hs.config, ⟨hs.named.menu_id, hs.named.link_id⟩,
    Element.attribute?_setAttribute _ _ _, hs.menu, hs.installed⟩

theorem linkedTheme_of_follows (h : c.menuId ≠ c.stylesheetId) (hs : Follows c o s) :
    s.linkedTheme = (c.catalog.themeWithPath? (c.catalog.entry s.selected).path).getD .light := by
  have hcat : s.catalog = c.catalog := catalog_of_config hs.config
  have hget : Page.getAttribute s.page s.config.stylesheetId "href"
      = .ok (some (c.catalog.entry s.selected).path) := by
    rw [hs.config, Shell.getAttribute_link "href" (hs.named.menu_ne h.symm) hs.named.link_id,
      hs.href]
  simp only [linkedTheme, hget, hcat]

theorem follows_install (h : c.menuId ≠ c.stylesheetId) (hs : Follows c none s) :
    s.install.result = .ok () ∧ ∃ t, Follows c (some t) s.install.after := by
  have hp : Page.appendChild s.page s.config.menuId (selectFor s.config s.linkedTheme)
      = ⟨.ok (), { s.page with menu := s.page.menu.append (selectFor c s.linkedTheme) }, []⟩ := by
    rw [hs.config]
    exact Shell.edit_menu _ hs.named.menu_id
  obtain ⟨hr, hafter⟩ := install_eq_ok hs.installed hp
  refine ⟨hr, s.linkedTheme, ?_⟩
  rw [hafter]
  refine ⟨hs.config, ⟨hs.named.menu_id, hs.named.link_id⟩, ?_, ?_, rfl⟩
  · -- the theme in use may change here, but not its path
    show s.page.link.attribute? "href" = some (c.catalog.entry s.linkedTheme).path
    rw [linkedTheme_of_follows h hs, Catalog.path_themeWithPath?, hs.href]
  · show s.page.inMenu ++ [selectFor c s.linkedTheme] = [selectFor c s.linkedTheme]
    rw [hs.menu]
    rfl

/-- The select comes in with the first `install` and stays. -/
theorem follows_perform (h : c.menuId ≠ c.stylesheetId) (hs : Follows c o s) (call : Command) :
    (s.perform call).result = .ok call.returned ∧
      ∃ o', Follows c o' (s.perform call).after ∧ (o'.isSome ↔ o.isSome ∨ call = .install) ∧
        ∀ t, o = some t → o' = some t := by
  by_cases hi : call = .install
  · subst hi
    cases o with
    | none =>
      obtain ⟨hr, t, hf⟩ := follows_install h hs
      exact ⟨congrArg (Except.map _) hr, some t, hf, by simp, nofun⟩
    | some t =>
      obtain ⟨hr, hafter⟩ := install_of_installed hs.installed
      refine ⟨congrArg (Except.map _) hr, some t, ?_, by simp, fun _ hu => hu⟩
      show Follows c (some t) s.install.after
      rw [hafter]
      exact hs
  · have hkept : o.isSome ↔ o.isSome ∨ call = .install := by simp [hi]
    cases ht : call.theme? with
    | none =>
      obtain ⟨hr, hafter⟩ := perform_of_no_theme (s := s) hi ht
      rw [hafter]
      exact ⟨hr, o, hs, hkept, fun _ hu => hu⟩
    | some t =>
      obtain ⟨hr, hf⟩ := follows_apply h hs t
      obtain ⟨hres, hafter⟩ := perform_of_theme (s := s) ht
      rw [hres, hr, hafter]
      exact ⟨rfl, o, hf, hkept, fun _ hu => hu⟩

theorem follows_afterAll (h : c.menuId ≠ c.stylesheetId) (hs : Follows c o s)
    (calls : List Command) :
    ∃ o', Follows c o' (s.afterAll calls) ∧ (o'.isSome ↔ o.isSome ∨ .install ∈ calls) ∧
      ∀ t, o = some t → o' = some t := by
  induction calls using List.reverseRecOn with
  | nil => exact ⟨o, hs, by simp, fun _ ht => ht⟩
  | append_singleton calls call ih =>
    obtain ⟨o₁, hf₁, hin₁, hkeep₁⟩ := ih
    obtain ⟨-, o₂, hf₂, hin₂, hkeep₂⟩ := follows_perform h hf₁ call
    refine ⟨o₂, ?_, ?_, fun t ht => hkeep₂ t (hkeep₁ t ht)⟩
    · rw [afterAll_concat]
      exact hf₂
    · rw [hin₂, hin₁, List.mem_append, List.mem_singleton, or_assoc, eq_comm (a := call)]

end Follows

/-! ## Equal ids -/

/-- A chooser whose menu answers for the link. -/
structure Captured (c : Config) (s : Chooser Shell) : Prop where
  config : s.config = c
  named : Shell.Named c s.page
  link : s.page.link = (Shell.ofConfig c).link

theorem captured_ofPage (c : Config) : Captured c (ofPage (Shell.ofConfig c) c) :=
  ⟨rfl, Shell.named_ofConfig c, rfl⟩

section Captured

theorem captured_apply (h : c.menuId = c.stylesheetId) (hs : Captured c s) (t : Theme) :
    (s.apply t).result = .ok () ∧ Captured c (s.apply t).after ∧
      (s.apply t).after.selected = t := by
  have hid : s.page.menu.id = some s.config.stylesheetId := by
    rw [hs.named.menu_id, hs.config, h]
  obtain ⟨hr, hafter⟩ := apply_eq_ok (s := s) (t := t) (Shell.edit_menu _ hid)
  rw [hafter]
  exact ⟨hr, ⟨hs.config, ⟨hs.named.menu_id, hs.named.link_id⟩, hs.link⟩, rfl⟩

theorem captured_install (hs : Captured c s) :
    s.install.result = .ok () ∧ Captured c s.install.after := by
  cases hi : s.installed with
  | true =>
    obtain ⟨hr, hafter⟩ := install_of_installed hi
    rw [hafter]
    exact ⟨hr, hs⟩
  | false =>
    have hid : s.page.menu.id = some s.config.menuId := by
      rw [hs.named.menu_id, hs.config]
    obtain ⟨hr, hafter⟩ := install_eq_ok hi (Shell.edit_menu _ hid)
    rw [hafter]
    exact ⟨hr, hs.config, ⟨hs.named.menu_id, hs.named.link_id⟩, hs.link⟩

theorem captured_perform (h : c.menuId = c.stylesheetId) (hs : Captured c s) (call : Command) :
    (s.perform call).result = .ok call.returned ∧ Captured c (s.perform call).after := by
  have happly := captured_apply h hs
  obtain ⟨hr, hc⟩ := captured_install hs
  refine ⟨perform_eq_ok hr (fun t => (happly t).1) call, ?_⟩
  exact perform_preserves hs hc (fun t => (happly t).2.1) call

theorem captured_afterAll (h : c.menuId = c.stylesheetId) (hs : Captured c s)
    (calls : List Command) : Captured c (s.afterAll calls) := by
  induction calls generalizing s with
  | nil => exact hs
  | cons call calls ih => exact ih (captured_perform h hs call).2

end Captured

end Chooser

namespace Session

open Chooser

/-- The stylesheet on screen is that of the theme in use. -/
def Agrees (s : Session) : Prop :=
  s.chooser.page.href = (s.chooser.catalog.entry s.chooser.selected).path

/-- What an action returns when it succeeds. -/
def returned (a : Action) : Option Theme := a.command?.bind Command.returned

theorem mem_commands_iff {actions : List Action} :
    .install ∈ actions.filterMap Action.command? ↔ .call .install ∈ actions := by
  rw [List.mem_filterMap]
  constructor
  · rintro ⟨a, ha, hc⟩
    cases a with
    | call command =>
      cases hc
      exact ha
    | event value =>
      obtain ⟨index, -, h⟩ := Option.map_eq_some_iff.1 hc
      cases h
  · intro h
    exact ⟨_, h, rfl⟩

theorem reply_eq_ok {s : Session}
    (h : ∀ call, (s.chooser.perform call).result = .ok call.returned) (a : Action) :
    s.reply a = .ok (returned a) := by
  cases hc : a.command? with
  | none => rw [(act_of_no_command hc).2, returned, hc, Option.bind_none]
  | some call => rw [(act_of_command hc).2, h, returned, hc, Option.bind_some]

theorem agrees_of_follows {c : Config} {o : Option Theme} {s : Session}
    (hs : Follows c o s.chooser) : s.Agrees := by
  have hcat : s.chooser.catalog = c.catalog := catalog_of_config hs.config
  rw [Agrees, Shell.href, hs.href, hcat, Option.getD_some]

theorem agrees_iff_of_captured {c : Config} {s : Session} (hs : Captured c s.chooser) :
    s.Agrees ↔ s.chooser.selected = .light ∨ c.light.path = c.dark.path := by
  have hcat : s.chooser.catalog = c.catalog := catalog_of_config hs.config
  have hhref : s.chooser.page.href = c.light.path := by
    rw [Shell.href, hs.link, Shell.href_ofConfig, Option.getD_some]
  rw [Agrees, hhref, hcat]
  cases s.chooser.selected with
  | light => simp [Catalog.entry, Config.catalog]
  | dark => simp [Catalog.entry, Config.catalog]

/-! ## Runs of a session -/

section Runs

variable {c : Config}

theorem follows_afterActions (h : c.menuId ≠ c.stylesheetId) (actions : List Action) :
    ∃ o, Follows c o ((ofConfig c).afterActions actions).chooser ∧
      (o.isSome ↔ .call .install ∈ actions) := by
  obtain ⟨o, hf, hin, -⟩ :=
    follows_afterAll h (follows_ofPage c) (actions.filterMap Action.command?)
  refine ⟨o, ?_, ?_⟩
  · rw [chooser_afterActions]
    exact hf
  · rw [hin, mem_commands_iff]
    simp

theorem captured_afterActions (h : c.menuId = c.stylesheetId) (actions : List Action) :
    Captured c ((ofConfig c).afterActions actions).chooser := by
  rw [chooser_afterActions]
  exact captured_afterAll h (captured_ofPage c) _

theorem reply_afterActions (c : Config) (actions : List Action) (a : Action) :
    ((ofConfig c).afterActions actions).reply a = .ok (returned a) := by
  apply reply_eq_ok
  intro call
  by_cases h : c.menuId = c.stylesheetId
  · exact (captured_perform h (captured_afterActions h actions) call).1
  · obtain ⟨o, hf, -⟩ := follows_afterActions h actions
    exact (follows_perform h hf call).1

theorem error_afterActions (c : Config) (actions : List Action) :
    ((ofConfig c).afterActions actions).error = none := by
  induction actions using List.reverseRecOn with
  | nil => rfl
  | append_singleton actions a ih =>
    rw [afterActions_append]
    exact error_act ih (reply_afterActions c actions a)

/-- A select that is in the menu is there for good. -/
theorem inMenu_afterActions {o : Option Theme} {t : Theme} {s : Session}
    (h : c.menuId ≠ c.stylesheetId) (hs : Follows c o s.chooser) (ho : o = some t)
    (more : List Action) : (s.afterActions more).chooser.page.inMenu = [selectFor c t] := by
  obtain ⟨o', hf, -, hkeep⟩ := follows_afterAll h hs (more.filterMap Action.command?)
  rw [chooser_afterActions, hf.menu, hkeep t ho]
  rfl

/-- **The stylesheet on screen follows the theme in use.** No action of a session fails. While the
menu and the link have different ids, the two agree in every state, and the first `install` puts
one select into the menu that stays. If the ids are equal, the link never changes, and the two
agree as long as the light theme, or its stylesheet, is in use. -/
theorem link_follows_selected (c : Config) (actions : List Action) :
    let s := (ofConfig c).afterActions actions
    (s.error = none ∧ ∀ a, s.reply a = .ok (returned a)) ∧
    (c.menuId ≠ c.stylesheetId →
      s.Agrees ∧
      (.call .install ∉ actions → s.chooser.page.inMenu = []) ∧
      (.call .install ∈ actions →
        ∃ t, ∀ more, (s.afterActions more).chooser.page.inMenu = [selectFor c t])) ∧
    (c.menuId = c.stylesheetId →
      s.chooser.page.href = c.light.path ∧
      (s.act (.call (.apply .dark))).chooser.selected = .dark ∧
      (s.act (.call (.change 1))).chooser.selected = .dark ∧
      (s.Agrees ↔ s.chooser.selected = .light ∨ c.light.path = c.dark.path)) := by
  intro s
  refine ⟨⟨error_afterActions c actions, reply_afterActions c actions⟩, ?_, ?_⟩
  · intro h
    obtain ⟨o, hf, hin⟩ := follows_afterActions h actions
    refine ⟨agrees_of_follows hf, ?_, ?_⟩
    · intro hno
      have ho : o = none := by
        rw [← hin] at hno
        exact Option.not_isSome_iff_eq_none.1 hno
      rw [hf.menu, ho]
      rfl
    · intro hyes
      obtain ⟨t, ho⟩ := Option.isSome_iff_exists.1 (hin.2 hyes)
      exact ⟨t, inMenu_afterActions h hf ho⟩
  · intro h
    have hc : Captured c s.chooser := captured_afterActions h actions
    have hdark : (s.chooser.apply .dark).after.selected = .dark := (captured_apply h hc .dark).2.2
    refine ⟨?_, hdark, ?_, agrees_iff_of_captured hc⟩
    · rw [Shell.href, hc.link, Shell.href_ofConfig, Option.getD_some]
    · show (s.chooser.perform (.change 1)).after.selected = .dark
      have ht : (Command.change 1).theme? = some .dark := rfl
      rw [(perform_of_theme ht).2]
      exact hdark

/-- Dark shown before the select is in the menu, with different ids and with equal ids. -/
theorem link_follows_selected_dark :
    let actions : List Action := [.event "1", .call .install]
    let s := (ofConfig {}).afterActions actions
    let s' := (ofConfig { stylesheetId := "menu" }).afterActions actions
    s.Agrees ∧ s.chooser.selected = .dark ∧ s'.chooser.page.href = "./css/light.css" ∧
      s'.chooser.selected = .dark ∧ ¬ s'.Agrees := by
  intro actions s s'
  obtain ⟨hagrees, -, -⟩ := (link_follows_selected {} actions).2.1 (by decide)
  obtain ⟨hhref, -, -, hiff⟩ :=
    (link_follows_selected { stylesheetId := "menu" } actions).2.2 rfl
  refine ⟨hagrees, by decide, hhref, by decide, ?_⟩
  rw [hiff]
  decide

end Runs

end Session
end ThemeMenu
