import ThemeMenu.Chooser.Run

/-!
# ThemeMenu.Proofs.Chooser.Calls

What a single call does, on any page. Of the three kinds of call, `install` needs the menu, a call
that asks for a theme needs the stylesheet link, and a change past the last option needs nothing.

* `Command.theme?`, `Command.target?`: the theme a call asks for, and the id it needs on the page.
* `Chooser.answer`: the result of a call, told from the page and the settings alone.
* `install_eq_ok`, `install_eq_error`, `apply_eq_ok`, `apply_eq_error`: each call that writes, told
  by what the page answers.
* `install_cases`, `apply_cases`: the two outcomes of each.
* `perform_of_theme`, `perform_of_no_theme`: every call but `install` is an `apply` or does nothing.
* `perform_preserves`, `page_perform_preserves`, `perform_eq_ok`: what follows for a call of any
  kind.
-/

namespace ThemeMenu

namespace Command

def theme? : Command → Option Theme
  | .install => none
  | .change index => Theme.ofIndex? index
  | .apply theme => some theme

def target? (c : Config) : Command → Option String
  | .install => some c.menuId
  | .change index => (Theme.ofIndex? index).map fun _ => c.stylesheetId
  | .apply _ => some c.stylesheetId

/-- What a call returns when it succeeds. -/
def returned : Command → Option Theme
  | .install => none
  | .change index => Theme.ofIndex? index
  | .apply _ => none

theorem target?_of_theme {c : Config} {call : Command} {t : Theme} (h : call.theme? = some t) :
    call.target? c = some c.stylesheetId := by
  cases call with
  | install => cases h
  | change index => simp only [theme?] at h; simp [target?, h]
  | apply theme => rfl

theorem target?_of_no_theme {c : Config} {call : Command} (hi : call ≠ .install)
    (h : call.theme? = none) : call.target? c = none := by
  cases call with
  | install => exact absurd rfl hi
  | change index => simp only [theme?] at h; simp [target?, h]
  | apply theme => cases h

end Command

namespace Chooser

variable {π : Type}

theorem catalog_of_config {s : Chooser π} {c : Config} (h : s.config = c) :
    s.catalog = c.catalog := congrArg Config.catalog h

section OnPage

variable {α : Type} {s : Chooser π} {f : π → Step π PageError α} {p : π} {logs : List Log.Line}

theorem run_onPage (s : Chooser π) (f : π → Step π PageError α) :
    Routine.run s (onPage f)
      = ⟨(f s.page).result.mapError .page, { s with page := (f s.page).after }, (f s.page).logs⟩ :=
  rfl

theorem run_onPage_of_ok {a : α} (h : f s.page = ⟨.ok a, p, logs⟩) :
    Routine.run s (onPage f) = ⟨.ok a, { s with page := p }, logs⟩ := by
  rw [run_onPage, h]
  rfl

theorem run_onPage_of_error {e : PageError} (h : f s.page = ⟨.error e, p, logs⟩) :
    Routine.run s (onPage f) = ⟨.error (.page e), { s with page := p }, logs⟩ := by
  rw [run_onPage, h]
  rfl

end OnPage

variable [Page π]

/-- A chooser before its first call. -/
def ofPage (p : π) (c : Config) : Chooser π := { page := p, config := c }

def answer (p : π) (c : Config) (call : Command) : Except ChooserError (Option Theme) :=
  match call.target? c with
  | none => .ok call.returned
  | some id =>
    match Page.element? p id with
    | some _ => .ok call.returned
    | none => .error (.page (.elementNotFound id))

section Outcomes

variable {s : Chooser π} {p : π} {e : PageError} {t : Theme}

theorem answer_of_target {call : Command} {c : Config} {id : String} {n : Element}
    (ht : call.target? c = some id) (hn : Page.element? p id = some n) :
    answer p c call = .ok call.returned := by
  simp only [answer, ht, hn]

theorem answer_of_target_missing {call : Command} {c : Config} {id : String}
    (ht : call.target? c = some id) (hn : Page.element? p id = none) :
    answer p c call = .error (.page (.elementNotFound id)) := by
  simp only [answer, ht, hn]

theorem answer_of_no_target {call : Command} {c : Config} (ht : call.target? c = none) :
    answer p c call = .ok call.returned := by
  simp only [answer, ht]

theorem install_of_installed (h : s.installed = true) :
    s.install.result = .ok () ∧ s.install.after = s := by
  simp [install, h]

theorem install_eq_ok (h : s.installed = false)
    (hp : Page.appendChild s.page s.config.menuId (selectFor s.config s.linkedTheme)
      = ⟨.ok (), p, []⟩) :
    s.install.result = .ok () ∧
      s.install.after = { s with page := p, selected := s.linkedTheme, installed := true } := by
  have hrun := run_onPage_of_ok
    (f := (Page.appendChild · s.config.menuId (selectFor s.config s.linkedTheme))) hp
  simp [install, h, hrun]

theorem install_eq_error (h : s.installed = false)
    (hp : Page.appendChild s.page s.config.menuId (selectFor s.config s.linkedTheme)
      = ⟨.error e, p, []⟩) :
    s.install.result = .error (.page e) ∧ s.install.after = { s with page := p } := by
  have hrun := run_onPage_of_error
    (f := (Page.appendChild · s.config.menuId (selectFor s.config s.linkedTheme))) hp
  simp [install, h, hrun]

theorem apply_eq_ok
    (hp : Page.setAttribute s.page s.config.stylesheetId "href" (s.catalog.entry t).path
      = ⟨.ok (), p, []⟩) :
    (s.apply t).result = .ok () ∧ (s.apply t).after = { s with page := p, selected := t } := by
  have hrun := run_onPage_of_ok
    (f := (Page.setAttribute · s.config.stylesheetId "href" (s.catalog.entry t).path)) hp
  simp [apply, applying, hrun]

theorem apply_eq_error
    (hp : Page.setAttribute s.page s.config.stylesheetId "href" (s.catalog.entry t).path
      = ⟨.error e, p, []⟩) :
    (s.apply t).result = .error (.page e) ∧ (s.apply t).after = { s with page := p } := by
  have hrun := run_onPage_of_error
    (f := (Page.setAttribute · s.config.stylesheetId "href" (s.catalog.entry t).path)) hp
  simp [apply, applying, hrun]

/-- The first `install` puts the select into the page, or fails for want of a menu and leaves
everything as it is. -/
theorem install_cases (h : s.installed = false) :
    (Page.element? s.page s.config.menuId ≠ none ∧
      ∃ p, Page.appendChild s.page s.config.menuId (selectFor s.config s.linkedTheme)
          = ⟨.ok (), p, []⟩ ∧
        s.install.result = .ok () ∧
        s.install.after = { s with page := p, selected := s.linkedTheme, installed := true }) ∨
    (Page.element? s.page s.config.menuId = none ∧
      s.install.result = .error (.page (.elementNotFound s.config.menuId)) ∧
      s.install.after = s) := by
  obtain ⟨hne, p, hp⟩ | ⟨hn, hp⟩ := Page.appendChild_ok_or_error s.page s.config.menuId
    (selectFor s.config s.linkedTheme)
  · exact .inl ⟨hne, p, hp, install_eq_ok h hp⟩
  · exact .inr ⟨hn, install_eq_error h hp⟩

/-- `apply` links the stylesheet, or fails for want of a link and leaves everything as it is. -/
theorem apply_cases (s : Chooser π) (t : Theme) :
    (Page.element? s.page s.config.stylesheetId ≠ none ∧
      ∃ p, Page.setAttribute s.page s.config.stylesheetId "href" (s.catalog.entry t).path
          = ⟨.ok (), p, []⟩ ∧
        (s.apply t).result = .ok () ∧
        (s.apply t).after = { s with page := p, selected := t }) ∨
    (Page.element? s.page s.config.stylesheetId = none ∧
      (s.apply t).result = .error (.page (.elementNotFound s.config.stylesheetId)) ∧
      (s.apply t).after = s) := by
  obtain ⟨hne, p, hp⟩ | ⟨hn, hp⟩ := Page.setAttribute_ok_or_error s.page s.config.stylesheetId
    "href" (s.catalog.entry t).path
  · exact .inl ⟨hne, p, hp, apply_eq_ok hp⟩
  · exact .inr ⟨hn, apply_eq_error hp⟩

theorem change_of_theme {i : Nat} (h : Theme.ofIndex? i = some t) :
    (s.change i).result = (s.apply t).result.map (fun _ => some t) ∧
      (s.change i).after = (s.apply t).after := by
  have happly : Routine.run s (applying t) = s.apply t := rfl
  simp only [change, h, Routine.run_bind, Routine.run_report, Step.andThen_ok, happly]
  obtain ⟨result, u, logs⟩ := s.apply t
  cases result <;> exact ⟨rfl, rfl⟩

theorem change_of_no_theme {i : Nat} (h : Theme.ofIndex? i = none) :
    (s.change i).result = .ok none ∧ (s.change i).after = s := by
  simp [change, h]

/-- Whether or not the select is taken, the page is the one that the attempt left. -/
theorem page_install (h : s.installed = false) :
    s.install.after.page
      = (Page.appendChild s.page s.config.menuId (selectFor s.config s.linkedTheme)).after := by
  obtain ⟨-, p, hp, -, hafter⟩ | ⟨hn, -, hafter⟩ := install_cases h
  · rw [hafter, hp]
  · rw [hafter, Page.appendChild, Page.edit_of_none _ hn]

theorem page_apply (s : Chooser π) (t : Theme) :
    (s.apply t).after.page
      = (Page.setAttribute s.page s.config.stylesheetId "href" (s.catalog.entry t).path).after := by
  obtain ⟨-, p, hp, -, hafter⟩ | ⟨hn, -, hafter⟩ := apply_cases s t
  · rw [hafter, hp]
  · rw [hafter, Page.setAttribute, Page.edit_of_none _ hn]

theorem selected_apply (h : (s.apply t).result = .ok ()) : (s.apply t).after.selected = t := by
  obtain ⟨-, p, -, -, hafter⟩ | ⟨-, hr, -⟩ := apply_cases s t
  · rw [hafter]
  · rw [hr] at h
    cases h

theorem perform_of_theme {call : Command} (h : call.theme? = some t) :
    (s.perform call).result = (s.apply t).result.map (fun _ => call.returned) ∧
      (s.perform call).after = (s.apply t).after := by
  cases call with
  | install => cases h
  | change index =>
    have hchange := change_of_theme (s := s) h
    rwa [← h] at hchange
  | apply theme =>
    cases h
    exact ⟨rfl, rfl⟩

theorem perform_of_no_theme {call : Command} (hi : call ≠ .install) (h : call.theme? = none) :
    (s.perform call).result = .ok call.returned ∧ (s.perform call).after = s := by
  cases call with
  | install => exact absurd rfl hi
  | change index =>
    have hchange := change_of_no_theme (s := s) h
    rwa [← h] at hchange
  | apply theme => cases h

/-- Every call but `install` is an `apply` or does nothing, so the two calls that write decide what
every call preserves. -/
theorem perform_preserves {P : Chooser π → Prop} (hs : P s) (hi : P s.install.after)
    (ha : ∀ t, P (s.apply t).after) (call : Command) : P (s.perform call).after := by
  by_cases hc : call = .install
  · subst hc
    exact hi
  · cases ht : call.theme? with
    | none =>
      rw [(perform_of_no_theme hc ht).2]
      exact hs
    | some t =>
      rw [(perform_of_theme ht).2]
      exact ha t

/-- A call writes to the page at most once: it appends the select or writes an attribute. -/
theorem page_perform_preserves {P : π → Prop} (hs : P s.page)
    (happend : ∀ t, P (Page.appendChild s.page s.config.menuId (selectFor s.config t)).after)
    (hwrite : ∀ id name value, P (Page.setAttribute s.page id name value).after)
    (call : Command) : P (s.perform call).after.page := by
  apply perform_preserves (P := fun s : Chooser π => P s.page) hs
  · cases hi : s.installed with
    | true => rwa [(install_of_installed hi).2]
    | false =>
      rw [page_install hi]
      exact happend _
  · intro t
    rw [page_apply]
    exact hwrite _ _ _

theorem config_perform (s : Chooser π) (call : Command) :
    (s.perform call).after.config = s.config := by
  apply perform_preserves (P := fun u : Chooser π => u.config = s.config) rfl
  · cases hi : s.installed with
    | true => rw [(install_of_installed hi).2]
    | false =>
      obtain ⟨-, p, -, -, hafter⟩ | ⟨-, -, hafter⟩ := install_cases hi
      · rw [hafter]
      · rw [hafter]
  · intro t
    obtain ⟨-, p, -, -, hafter⟩ | ⟨-, -, hafter⟩ := apply_cases s t
    · rw [hafter]
    · rw [hafter]

theorem perform_eq_ok (hi : s.install.result = .ok ()) (ha : ∀ t, (s.apply t).result = .ok ())
    (call : Command) : (s.perform call).result = .ok call.returned := by
  by_cases hc : call = .install
  · subst hc
    exact congrArg (Except.map _) hi
  · cases ht : call.theme? with
    | none => exact (perform_of_no_theme hc ht).1
    | some t =>
      rw [(perform_of_theme ht).1, ha t]
      rfl

end Outcomes

theorem afterAll_concat (s : Chooser π) (calls : List Command) (call : Command) :
    s.afterAll (calls ++ [call]) = ((s.afterAll calls).perform call).after := by
  rw [afterAll_append]
  rfl

theorem results_concat (s : Chooser π) (calls : List Command) (call : Command) :
    s.results (calls ++ [call])
      = s.results calls ++ [((s.afterAll calls).perform call).result] := by
  induction calls generalizing s with
  | nil => rfl
  | cons c cs ih =>
    simp only [List.cons_append, results, ih, afterAll_cons]

end Chooser
end ThemeMenu
