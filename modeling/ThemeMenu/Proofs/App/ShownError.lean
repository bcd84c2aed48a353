import Mathlib.Data.List.Induction
import ThemeMenu.Proofs.App.Action
import ThemeMenu.Proofs.Page.Reach
import ThemeMenu.Proofs.Text.Numeral

/-!
# ThemeMenu.Proofs.App.ShownError

The error that a session shows. The page may have been made for other settings than those of the
chooser, so that a change can fail. An event that writes an index replaces the shown error by that
of its change, or by none; nothing else touches it. Whether a change fails does not depend on what
was done before, because the ids of the page never change.

* `Action.Indexes`, `Session.LastIndex`: the index an event writes, and the last one of a run.
* `Session.errorAt`: the error of a change to an index.
* `Stands`: what every run keeps.
* `error_of_last_index`: the error that is shown after a run.
-/

namespace ThemeMenu

/-- An event that writes an index, be it that of a theme or not. -/
def Action.Indexes (a : Action) (i : Nat) : Prop :=
  ∃ value, a = .event value ∧ Numeral.Writes value i ∧ i ≤ Numeral.limit

namespace Session

/-- A session with the settings `c` on a page that was made for the settings `p`. -/
def ofConfigs (p c : Config) : Session := ⟨Chooser.ofPage (Shell.ofConfig p) c, none⟩

def NoIndex (actions : List Action) : Prop := ∀ a ∈ actions, ∀ i, ¬ a.Indexes i

/-- The last index that an event of the run writes. -/
def LastIndex (actions : List Action) (i : Nat) : Prop :=
  ∃ before a after, actions = before ++ a :: after ∧ a.Indexes i ∧ NoIndex after

/-- A change fails when its index has a theme but the page has no element for the link. -/
def errorAt (p c : Config) (i : Nat) : Option String :=
  if i < 2 ∧ c.stylesheetId ≠ p.menuId ∧ c.stylesheetId ≠ p.stylesheetId then
    some ("Page Error: " ++ (PageError.elementNotFound c.stylesheetId).message)
  else none

/-- The page still has the ids of the settings `p`, and the chooser the settings `c`. -/
structure Stands (p c : Config) (s : Session) : Prop where
  page : Shell.Named p s.chooser.page
  config : s.chooser.config = c

variable {p c : Config} {s : Session} {a : Action} {actions : List Action} {i : Nat}

theorem stands_act (hs : Stands p c s) (a : Action) : Stands p c (s.act a) := by
  cases hc : a.command? with
  | none => rwa [(act_of_no_command hc).1]
  | some call =>
    have hchooser := (act_of_command (s := s) hc).1
    constructor
    · rw [hchooser]
      exact hs.page.perform call
    · rw [hchooser, Chooser.config_perform, hs.config]

theorem stands_afterActions (hs : Stands p c s) (actions : List Action) :
    Stands p c (s.afterActions actions) := by
  induction actions generalizing s with
  | nil => exact hs
  | cons a actions ih => exact ih (stands_act hs a)

/-! ## One action -/

theorem indexes_event_iff {value : String} :
    Action.Indexes (.event value) i ↔ numeral? value = some i := by
  rw [numeral?_eq_some_iff]
  constructor
  · rintro ⟨v, hv, hw⟩
    cases hv
    exact hw
  · intro hw
    exact ⟨value, rfl, hw⟩

theorem error_act_of_no_index (h : ∀ i, ¬ a.Indexes i) : (s.act a).error = s.error := by
  cases a with
  | call command => rfl
  | event value =>
    cases hv : numeral? value with
    | none => simp only [act, pick, hv]
    | some i => exact absurd (indexes_event_iff.2 hv) (h i)

theorem error_act_of_index (hs : Stands p c s) (h : a.Indexes i) :
    (s.act a).error = errorAt p c i := by
  obtain ⟨value, rfl, hw⟩ := h
  have hv : numeral? value = some i := numeral?_eq_some_iff.2 hw
  have hmissing : Page.element? s.chooser.page s.chooser.config.stylesheetId = none ↔
      c.stylesheetId ≠ p.menuId ∧ c.stylesheetId ≠ p.stylesheetId := by
    rw [hs.page.element?_eq_none_iff, hs.config]
  cases hr : (s.chooser.change i).result with
  | ok r =>
    have hno : ¬ (i < 2 ∧ c.stylesheetId ≠ p.menuId ∧ c.stylesheetId ≠ p.stylesheetId) := by
      rintro ⟨hi, hne⟩
      rw [← hmissing] at hne
      rw [(Chooser.change_eq_error_iff hi).2 ⟨hne, rfl⟩] at hr
      cases hr
    simp only [act, pick, hv, hr, errorAt, if_neg hno]
  | error e =>
    have hi : i < 2 := by
      apply Nat.lt_of_not_le
      intro hle
      rw [Chooser.change_of_le hle] at hr
      cases hr
    obtain ⟨hnone, rfl⟩ := (Chooser.change_eq_error_iff hi).1 hr
    rw [hmissing] at hnone
    simp only [act, pick, hv, hr, errorAt, if_pos (And.intro hi hnone), hs.config]
    rfl

/-! ## Runs -/

theorem error_afterActions_of_noIndex (h : NoIndex actions) :
    (s.afterActions actions).error = s.error := by
  induction actions generalizing s with
  | nil => rfl
  | cons a actions ih =>
    obtain ⟨ha, hactions⟩ := List.forall_mem_cons.1 h
    have hrest : ((s.act a).afterActions actions).error = (s.act a).error := ih hactions
    exact hrest.trans (error_act_of_no_index ha)

theorem noIndex_or_lastIndex (actions : List Action) :
    NoIndex actions ∨ ∃ i, LastIndex actions i := by
  induction actions using List.reverseRecOn with
  | nil => exact .inl nofun
  | append_singleton actions a ih =>
    by_cases ha : ∃ i, a.Indexes i
    · obtain ⟨i, ha⟩ := ha
      exact .inr ⟨i, actions, a, [], rfl, ha, nofun⟩
    · have hlast : NoIndex [a] := by
        intro b hb j hj
        rw [List.mem_singleton.1 hb] at hj
        exact ha ⟨j, hj⟩
      rcases ih with hno | ⟨i, before, b, after, rfl, hb, hafter⟩
      · exact .inl (List.forall_mem_append.2 ⟨hno, hlast⟩)
      · refine .inr ⟨i, before, b, after ++ [a], by simp, hb, ?_⟩
        exact List.forall_mem_append.2 ⟨hafter, hlast⟩

/-- **The shown error is that of the last event that wrote an index.** It is none as long as no
event has; and calls on the chooser, and events that write no index, leave it as it is. -/
theorem error_of_last_index (p c : Config) (actions : List Action) :
    let s := (ofConfigs p c).afterActions actions
    (NoIndex actions ∨ ∃ i, LastIndex actions i) ∧
    (NoIndex actions → s.error = none) ∧
    (∀ i, LastIndex actions i → s.error = errorAt p c i) ∧
    ∀ a : Action, (∀ i, ¬ a.Indexes i) → (s.act a).error = s.error := by
  have hstart : Stands p c (ofConfigs p c) := ⟨Shell.named_ofConfig p, rfl⟩
  refine ⟨noIndex_or_lastIndex actions, error_afterActions_of_noIndex, ?_, ?_⟩
  · rintro i ⟨before, a, after, rfl, ha, hafter⟩
    have hbefore := stands_afterActions hstart before
    rw [afterActions_append]
    show ((((ofConfigs p c).afterActions before).act a).afterActions after).error = _
    rw [error_afterActions_of_noIndex hafter]
    exact error_act_of_index hbefore ha
  · intro a ha
    exact error_act_of_no_index ha

/-- A chooser whose link is on no page: dark fails, and an index past the themes clears the error
again. -/
theorem error_of_last_index_cleared :
    let c : Config := { stylesheetId := "gone" }
    let actions : List Action := [.event "1", .call (.apply .light), .event "one"]
    let s := (ofConfigs {} c).afterActions actions
    s.error = some "Page Error: Element with id \"gone\" not found in the page" ∧
      ((ofConfigs {} c).afterActions (actions ++ [.event "2"])).error = none := by
  intro c actions s
  have hno : NoIndex [.call (.apply .light), .event "one"] := by
    intro a ha i hi
    simp only [List.mem_cons, List.not_mem_nil, or_false] at ha
    rcases ha with rfl | rfl
    · obtain ⟨value, hv, -⟩ := hi
      cases hv
    · cases indexes_event_iff.1 hi
  have hone : Action.Indexes (.event "1") 1 := indexes_event_iff.2 (by decide)
  have htwo : Action.Indexes (.event "2") 2 := indexes_event_iff.2 (by decide)
  obtain ⟨-, -, hlast, -⟩ := error_of_last_index {} c actions
  obtain ⟨-, -, hlast', -⟩ := error_of_last_index {} c (actions ++ [.event "2"])
  have hdark := hlast 1 ⟨[], _, _, rfl, hone, hno⟩
  have hpast := hlast' 2 ⟨actions, _, [], rfl, htwo, nofun⟩
  have hgone : errorAt {} c 1
      = some "Page Error: Element with id \"gone\" not found in the page" := by decide +kernel
  exact ⟨hdark.trans hgone, hpast⟩

end Session
end ThemeMenu
