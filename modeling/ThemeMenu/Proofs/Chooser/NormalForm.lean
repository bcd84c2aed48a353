import Mathlib.Data.List.Induction
import ThemeMenu.Proofs.Chooser.Imprint

/-!
# ThemeMenu.Proofs.Chooser.NormalForm

Whole runs on a document. The imprint of a run is told from its calls and the untouched document:
the link shows the theme of the last call that asks for one, and the select was built with the
theme that the link stood for when the first `install` came.

* `Imprint.ofRun`: that imprint.
* `perform_marks`: one call more, by the three kinds of call.
* `run_imprint`: results and final document of every run.
-/

namespace ThemeMenu

namespace Command

/-- The theme of the last call that asks for one. -/
def lastTheme? (calls : List Command) : Option Theme := (calls.filterMap theme?).getLast?

def beforeInstall (calls : List Command) : List Command := calls.takeWhile (· ≠ .install)

theorem lastTheme?_concat (calls : List Command) (call : Command) :
    lastTheme? (calls ++ [call]) = call.theme?.or (lastTheme? calls) := by
  rw [lastTheme?, List.filterMap_append, List.getLast?_append, lastTheme?]
  cases h : call.theme? <;> simp [h]

theorem beforeInstall_of_mem {calls : List Command} (h : .install ∈ calls) (more : List Command) :
    beforeInstall (calls ++ more) = beforeInstall calls := by
  induction calls with
  | nil => cases h
  | cons call calls ih =>
    by_cases hc : call = .install
    · simp [beforeInstall, hc]
    · have hmem : .install ∈ calls := by simpa [eq_comm, hc] using h
      simpa [beforeInstall, hc] using ih hmem

theorem beforeInstall_of_not_mem {calls : List Command} (h : .install ∉ calls) :
    beforeInstall (calls ++ [.install]) = calls := by
  have hp : ∀ call ∈ calls, decide (call ≠ .install) = true := by
    intro call hcall
    simp only [ne_eq, decide_not, Bool.not_eq_true', decide_eq_false_iff_not]
    rintro rfl
    exact h hcall
  rw [beforeInstall, List.takeWhile_append_of_pos hp]
  simp

end Command

namespace Imprint

open Command

/-- Neither change is there if its element is not: such calls fail. -/
def ofRun (d : Document) (c : Config) (calls : List Command) : Imprint where
  shown := if (d.find? c.stylesheetId).isSome then lastTheme? calls else none
  select :=
    if (d.find? c.menuId).isSome ∧ .install ∈ calls then
      some (linkedIn d c (lastTheme? (beforeInstall calls)))
    else none

variable {c : Config} {d : Document} {calls : List Command} {a : Address}

theorem ofRun_nil (d : Document) (c : Config) : ofRun d c [] = {} := by
  simp [ofRun, lastTheme?]

theorem select_ofRun_concat {call : Command} (hi : call ≠ .install) :
    (ofRun d c (calls ++ [call])).select = (ofRun d c calls).select := by
  by_cases hmem : .install ∈ calls
  · simp [ofRun, hmem, beforeInstall_of_mem hmem]
  · simp [ofRun, hmem, hi.symm]

theorem ofRun_concat_of_theme {call : Command} {t : Theme} (ht : call.theme? = some t)
    (h : (d.find? c.stylesheetId).isSome) :
    ofRun d c (calls ++ [call]) = ⟨some t, (ofRun d c calls).select⟩ := by
  have hi : call ≠ .install := by
    rintro rfl
    cases ht
  ext1
  · simp [ofRun, h, lastTheme?_concat, ht]
  · exact select_ofRun_concat hi

theorem ofRun_concat_of_idle {call : Command} (hi : call ≠ .install)
    (h : call.theme? = none ∨ d.find? c.stylesheetId = none) :
    ofRun d c (calls ++ [call]) = ofRun d c calls := by
  ext1
  · rcases h with h | h
    · simp [ofRun, lastTheme?_concat, h]
    · simp [ofRun, h]
  · exact select_ofRun_concat hi

theorem shown_ofRun_install :
    (ofRun d c (calls ++ [.install])).shown = (ofRun d c calls).shown := by
  simp [ofRun, lastTheme?_concat, theme?]

theorem linkedIn_ofRun : linkedIn d c (ofRun d c calls).shown = linkedIn d c (lastTheme? calls) := by
  cases h : d.find? c.stylesheetId with
  | none => simp [linkedIn, h]
  | some n => simp [ofRun, h]

theorem ofRun_concat_install (h : (d.find? c.menuId).isSome) (hn : .install ∉ calls) :
    ofRun d c (calls ++ [.install])
      = ⟨(ofRun d c calls).shown, some (linkedIn d c (ofRun d c calls).shown)⟩ := by
  ext1
  · exact shown_ofRun_install
  · rw [linkedIn_ofRun]
    simp [ofRun, h, beforeInstall_of_not_mem hn]

theorem ofRun_concat_install_again (h : d.find? c.menuId = none ∨ .install ∈ calls) :
    ofRun d c (calls ++ [.install]) = ofRun d c calls := by
  ext1
  · exact shown_ofRun_install
  · rcases h with h | h
    · simp [ofRun, h]
    · simp [ofRun, h, beforeInstall_of_mem h]

section Step

variable {s : Chooser Document}

theorem perform_marks_of_theme (hc : c.selectorId ≠ c.stylesheetId)
    (hs : (ofRun d c calls).Marks c d s) {call : Command} {t : Theme} (ht : call.theme? = some t) :
    (s.perform call).result = Chooser.answer d c call ∧
      (ofRun d c (calls ++ [call])).Marks c d (s.perform call).after := by
  have hi : call ≠ .install := by
    rintro rfl
    cases ht
  obtain ⟨hr, hafter⟩ := Chooser.perform_of_theme (s := s) ht
  cases ha : d.body.locate? c.stylesheetId with
  | none =>
    have hn := Document.find?_of_locate?_none ha
    obtain ⟨hr', hafter'⟩ := apply_of_missing hc hs ha t
    rw [hr, hafter, hr', hafter', ofRun_concat_of_idle hi (.inr hn),
      Chooser.answer_of_target_missing (target?_of_theme ht) hn]
    exact ⟨rfl, hs⟩
  | some a =>
    obtain ⟨n, hn⟩ := Document.exists_find?_of_locate? ha
    obtain ⟨hr', hmarks, _⟩ := marks_apply hc hs ha t
    rw [hr, hafter, hr', ofRun_concat_of_theme ht (by rw [hn]; rfl),
      Chooser.answer_of_target (target?_of_theme ht) hn]
    exact ⟨rfl, hmarks⟩

theorem perform_marks_install (hc : c.selectorId ≠ c.stylesheetId)
    (hs : (ofRun d c calls).Marks c d s) :
    (s.perform .install).result = Chooser.answer d c .install ∧
      (ofRun d c (calls ++ [.install])).Marks c d (s.perform .install).after := by
  have hperform : (s.perform .install).result = s.install.result.map (fun _ => none) ∧
      (s.perform .install).after = s.install.after := ⟨rfl, rfl⟩
  rw [hperform.1, hperform.2]
  cases ha : d.body.locate? c.menuId with
  | none =>
    have hn := Document.find?_of_locate?_none ha
    obtain ⟨hr, hafter⟩ := install_of_missing hs (by simp [ofRun, hn]) ha
    rw [hr, hafter, ofRun_concat_install_again (.inl hn),
      Chooser.answer_of_target_missing rfl hn]
    exact ⟨rfl, hs⟩
  | some a =>
    obtain ⟨n, hn⟩ := Document.exists_find?_of_locate? ha
    rw [Chooser.answer_of_target rfl hn]
    by_cases hmem : .install ∈ calls
    · have hi : s.installed = true := by simp [hs.installed, ofRun, hn, hmem]
      obtain ⟨hr, hafter⟩ := Chooser.install_of_installed hi
      rw [hr, hafter, ofRun_concat_install_again (.inr hmem)]
      exact ⟨rfl, hs⟩
    · obtain ⟨hr, hmarks, _⟩ := marks_install hc hs (by simp [ofRun, hmem]) ha
      rw [hr, ofRun_concat_install (by rw [hn]; rfl) hmem]
      exact ⟨rfl, hmarks⟩

theorem perform_marks (hc : c.selectorId ≠ c.stylesheetId) (hs : (ofRun d c calls).Marks c d s)
    (call : Command) :
    (s.perform call).result = Chooser.answer d c call ∧
      (ofRun d c (calls ++ [call])).Marks c d (s.perform call).after := by
  by_cases hi : call = .install
  · subst hi
    exact perform_marks_install hc hs
  · cases ht : call.theme? with
    | some t => exact perform_marks_of_theme hc hs ht
    | none =>
      obtain ⟨hr, hafter⟩ := Chooser.perform_of_no_theme (s := s) hi ht
      rw [hr, hafter, Chooser.answer_of_no_target (target?_of_no_theme hi ht),
        ofRun_concat_of_idle hi (.inl ht)]
      exact ⟨rfl, hs⟩

end Step

theorem afterAll_marks (hc : c.selectorId ≠ c.stylesheetId) (d : Document) (calls : List Command) :
    (ofRun d c calls).Marks c d ((Chooser.ofPage d c).afterAll calls) := by
  induction calls using List.reverseRecOn with
  | nil =>
    rw [ofRun_nil]
    exact marks_ofPage c d
  | append_singleton calls call ih =>
    rw [Chooser.afterAll_concat]
    exact (perform_marks hc ih call).2

theorem results_eq_answers (hc : c.selectorId ≠ c.stylesheetId) (d : Document)
    (calls : List Command) :
    (Chooser.ofPage d c).results calls = calls.map (Chooser.answer d c) := by
  induction calls using List.reverseRecOn with
  | nil => rfl
  | append_singleton calls call ih =>
    have hcall := perform_marks hc (afterAll_marks hc d calls) call
    rw [Chooser.results_concat, ih, List.map_append, hcall.1]
    rfl

/-- **Runs on a document.** Every result is told from the untouched document, and in the end the
document is the untouched one with the imprint of the run. -/
theorem run_imprint (c : Config) (hc : c.selectorId ≠ c.stylesheetId) (d : Document)
    (calls : List Command) :
    (Chooser.ofPage d c).results calls = calls.map (Chooser.answer d c) ∧
      ((Chooser.ofPage d c).afterAll calls).page = (ofRun d c calls).on c d :=
  ⟨results_eq_answers hc d calls, (afterAll_marks hc d calls).page⟩

/-- A menu around the link, and a second element with the id of the link. -/
theorem run_imprint_nested :
    let link : Element :=
      { tag := "link", id := some "color_css", attributes := ⟨[("href", "./css/dark.css")]⟩ }
    let d := Document.ofElements
      [{ tag := "div", id := some "menu", children := [link] }, { link with attributes := {} }]
    let calls : List Command := [.change 0, .install, .change 2, .apply .dark, .install]
    (Chooser.ofPage d {}).results calls
        = [.ok (some .light), .ok none, .ok none, .ok none, .ok none] ∧
      ((Chooser.ofPage d {}).afterAll calls).page = on ⟨some .dark, some .light⟩ {} d := by
  intro link d calls
  obtain ⟨hres, hpage⟩ := run_imprint {} (by decide) d calls
  have himprint : ofRun d {} calls = ⟨some .dark, some .light⟩ := by decide
  rw [hres, hpage, himprint]
  exact ⟨rfl, rfl⟩

end Imprint
end ThemeMenu
