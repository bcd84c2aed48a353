import ThemeMenu.Proofs.Chooser.Failure
import ThemeMenu.Proofs.Page.Cells
import ThemeMenu.Proofs.Page.Place
import ThemeMenu.Proofs.Tree.Commute

/-!
# ThemeMenu.Proofs.Chooser.Absorption

Themes that are asked for one after the other. The last one decides: what was asked for before it
leaves nothing behind, neither in the chooser nor in the page, not even in the order of the
attributes of the link.

* `Page.Steady`: on a page of this kind, two changes under one id go to one element.
* `apply_after_apply`: of two calls of `apply`, the second decides.
* `apply_after_perform`, `apply_afterAll`: so it does after any calls but `install`.
* `apply_absorbs_history`: on a document and on the application's page.
-/

namespace ThemeMenu

/-- A page on which an element whose id is kept by a change is found again by it. -/
class Page.Steady (π : Type) [Page π] : Prop where
  edit_edit : ∀ (p : π) (id : String) {f : Element → Element} (g : Element → Element),
    (∀ n, (f n).id = n.id) →
      Page.edit (Page.edit p id f).after id g = Page.edit p id fun n => g (f n)

instance : Page.Steady Document := ⟨Document.edit_edit⟩

instance : Page.Steady Shell := ⟨Shell.edit_edit⟩

/-- Whether or not the first write is taken, the second one goes as it would have gone at once. -/
theorem Page.setAttribute_setAttribute {π : Type} [Page π] [Page.Steady π] (p : π)
    (id name v w : String) :
    Page.setAttribute (Page.setAttribute p id name v).after id name w
      = Page.setAttribute p id name w := by
  have h := Page.Steady.edit_edit p id (f := (·.setAttribute name v)) (·.setAttribute name w)
    fun _ => rfl
  simp only [Element.setAttribute_setAttribute] at h
  exact h

namespace Chooser

variable {π : Type} [Page π] [Page.Steady π] (s : Chooser π)

theorem apply_after_apply (u t : Theme) : (s.apply u).after.apply t = s.apply t := by
  obtain ⟨hne, p, hu, -, hafter⟩ | ⟨-, -, hafter⟩ := apply_cases s u
  · obtain ⟨-, q, hq, -⟩ | ⟨hn, -⟩ := apply_cases s t
    · have hp : Page.setAttribute p s.config.stylesheetId "href" (s.catalog.entry t).path
          = ⟨.ok (), q, []⟩ := by
        have hagain := Page.setAttribute_setAttribute s.page s.config.stylesheetId "href"
          (s.catalog.entry u).path (s.catalog.entry t).path
        rw [hu] at hagain
        exact hagain.trans hq
      have hcatalog : ({ s with page := p, selected := u } : Chooser π).catalog = s.catalog := rfl
      rw [hafter]
      simp only [apply, applying, Routine.run_bind, Routine.run_get, Step.andThen_ok, run_onPage,
        hcatalog, hp, hq]
      -- the theme that came into use in between is overwritten as well
      rfl
    · exact absurd hn hne
  · rw [hafter]

theorem apply_after_perform {call : Command} (hc : call ≠ .install) (t : Theme) :
    (s.perform call).after.apply t = s.apply t := by
  cases hu : call.theme? with
  | none => rw [(perform_of_no_theme hc hu).2]
  | some u => rw [(perform_of_theme hu).2, apply_after_apply]

theorem apply_afterAll {calls : List Command} (h : .install ∉ calls) (t : Theme) :
    (s.afterAll calls).apply t = s.apply t := by
  induction calls generalizing s with
  | nil => rfl
  | cons call calls ih =>
    obtain ⟨hcall, hcalls⟩ := not_or.1 (fun hm => h (List.mem_cons.2 hm))
    rw [afterAll_cons, ih _ hcalls, apply_after_perform s (Ne.symm hcall)]

/-- A call made twice is made once. -/
theorem perform_perform {call : Command} (hc : call ≠ .install) :
    ((s.perform call).after.perform call).result = (s.perform call).result ∧
      ((s.perform call).after.perform call).after = (s.perform call).after := by
  cases ht : call.theme? with
  | none => simp only [(perform_of_no_theme hc ht).2, and_self]
  | some t =>
    have hsame := apply_after_apply s t t
    simp only [(perform_of_theme ht).1, (perform_of_theme ht).2, hsame, and_self]

/-- What was asked for before does not matter to a theme that is asked for, whichever of the two
calls asks for it. -/
structure Absorbs (s : Chooser π) : Prop where
  history : ∀ calls, .install ∉ calls → ∀ t,
    ((s.afterAll calls).apply t).result = (s.apply t).result ∧
      ((s.afterAll calls).apply t).after = (s.apply t).after
  again : ∀ call, call ≠ .install →
    ((s.perform call).after.perform call).result = (s.perform call).result ∧
      ((s.perform call).after.perform call).after = (s.perform call).after
  by_index : ∀ t : Theme, (s.change t.index).after = (s.apply t).after ∧
    (s.change t.index).result = (s.apply t).result.map fun _ => some t

theorem absorbs : s.Absorbs := by
  refine ⟨?_, fun _ => perform_perform s, ?_⟩
  · intro calls h t
    rw [apply_afterAll s h t]
    exact ⟨rfl, rfl⟩
  · intro t
    exact (change_of_theme (Theme.ofIndex?_index t)).symm

/-- **A theme that is asked for absorbs the history.** In every state of a chooser, on a document
and on the application's page, and whether or not there is a link: any calls that ask for themes and
then one for a theme `t` end in the state, and with the result, of asking for `t` at once. -/
theorem apply_absorbs_history :
    (∀ s : Chooser Document, s.Absorbs) ∧ (∀ s : Chooser Shell, s.Absorbs) :=
  ⟨absorbs, absorbs⟩

/-- A link without a stylesheet, which gets one in the course of the history, in front of its
`media`. -/
theorem apply_absorbs_history_unlinked :
    let link : Element :=
      { tag := "link", id := some "color_css", attributes := ⟨[("rel", "stylesheet")]⟩ }
    let s := ofPage (Document.ofElements [link]) {}
    let history : List Command := [.change 1, .change 7, .apply .light]
    ((s.afterAll history).apply .dark).after = (s.apply .dark).after ∧
      ((s.apply .dark).after.page.find? "color_css").map (·.attributes.pairs)
        = some [("rel", "stylesheet"), ("href", "./css/dark.css")] ∧
      (s.change 1).after = (s.apply .dark).after := by
  intro link s history
  have habsorbs := apply_absorbs_history.1 s
  exact ⟨(habsorbs.history history (by decide) .dark).2, by decide, (habsorbs.by_index .dark).1⟩

end Chooser
end ThemeMenu
