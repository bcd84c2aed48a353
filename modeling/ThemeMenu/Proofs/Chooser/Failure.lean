import ThemeMenu.Page.Shell
import ThemeMenu.Proofs.Chooser.Calls
import ThemeMenu.Proofs.Page.Choosing

/-!
# ThemeMenu.Proofs.Chooser.Failure

When an operation fails, and what a failed operation leaves behind: nothing. The page that an
operation leaves is compared with the one it found: a change of an element looks for the element
before it writes, a choice makes all its checks before it moves the mark, and a call writes to the
page before it writes to the chooser. So the operations that fail can be left out of a run without
anyone noticing.

* `install_eq_error_iff`, `apply_eq_error_iff`, `change_eq_error_iff`: a call fails exactly when
  the page lacks the element it writes to.
* `install_of_error`, `apply_of_error`, `perform_of_error`: a call that fails has changed nothing.
* `Page.Refuses`: an operation of the page that may fail, and then leaves the page as it was.
* `Operation`, `Chooser.operate`: calls and changes of the page as steps of one run.
* `leavesNoTrace_iff`: failures leave no trace exactly where each change of the page is atomic.
* `failures_leave_no_trace`: all of this, on a document and on the application's page.
-/

namespace ThemeMenu

namespace Chooser

section Calls

variable {π : Type} [Page π] {s : Chooser π} {e : ChooserError}

theorem install_eq_error_iff :
    s.install.result = .error e ↔
      s.installed = false ∧ Page.element? s.page s.config.menuId = none ∧
        e = .page (.elementNotFound s.config.menuId) := by
  cases hi : s.installed with
  | true => simp [(install_of_installed hi).1]
  | false =>
    obtain ⟨hne, p, -, hr, -⟩ | ⟨hn, hr, -⟩ := install_cases hi
    · simp [hr, hne]
    · simp [hr, hn, eq_comm]

theorem apply_eq_error_iff {t : Theme} :
    (s.apply t).result = .error e ↔
      Page.element? s.page s.config.stylesheetId = none ∧
        e = .page (.elementNotFound s.config.stylesheetId) := by
  obtain ⟨hne, p, -, hr, -⟩ | ⟨hn, hr, -⟩ := apply_cases s t
  · simp [hr, hne]
  · simp [hr, hn, eq_comm]

theorem change_of_le {i : Nat} (hi : 2 ≤ i) : (s.change i).result = .ok none :=
  (change_of_no_theme (Theme.ofIndex?_eq_none_iff.2 hi)).1

theorem change_eq_error_iff {i : Nat} (hi : i < 2) :
    (s.change i).result = .error e ↔
      Page.element? s.page s.config.stylesheetId = none ∧
        e = .page (.elementNotFound s.config.stylesheetId) := by
  cases ht : Theme.ofIndex? i with
  | none =>
    have hle := Theme.ofIndex?_eq_none_iff.1 ht
    omega
  | some t =>
    rw [← apply_eq_error_iff (t := t), (change_of_theme ht).1]
    cases (s.apply t).result <;> simp [Except.map]

theorem install_of_error (h : s.install.result = .error e) : s.install.after = s := by
  obtain ⟨hi, hn, -⟩ := install_eq_error_iff.1 h
  obtain ⟨hne, -⟩ | ⟨-, -, hafter⟩ := install_cases hi
  · exact absurd hn hne
  · exact hafter

theorem apply_of_error {t : Theme} (h : (s.apply t).result = .error e) :
    (s.apply t).after = s := by
  obtain ⟨-, p, -, hr, -⟩ | ⟨-, -, hafter⟩ := apply_cases s t
  · rw [hr] at h
    cases h
  · exact hafter

theorem perform_of_error {call : Command} (h : (s.perform call).result = .error e) :
    (s.perform call).after = s := by
  by_cases hc : call = .install
  · subst hc
    exact install_of_error (Step.answering_eq_error_iff.1 h)
  · cases ht : call.theme? with
    | none =>
      rw [(perform_of_no_theme hc ht).1] at h
      cases h
    | some t =>
      obtain ⟨hr, hafter⟩ := perform_of_theme (s := s) ht
      rw [hafter]
      cases ha : (s.apply t).result with
      | ok u =>
        rw [hr, ha] at h
        cases h
      | error e' => exact apply_of_error ha

end Calls

end Chooser

/-! ## Changes of the page -/

namespace Page

variable {π α : Type} [Page π]

/-- An operation of the page fails for the given reasons, and then leaves the page as it was. -/
structure Refuses (p : π) (u : Step π PageError α) (why : PageError → Prop) : Prop where
  reason : ∀ e, u.result = .error e ↔ why e
  kept : ∀ e, u.result = .error e → u.after = p

theorem refuses_edit (p : π) (id : String) (f : Element → Element) :
    Refuses p (edit p id f) fun e => element? p id = none ∧ e = .elementNotFound id :=
  ⟨fun _ => edit_eq_error_iff, fun _ => after_edit_of_error⟩

end Page

/-- The changes that every page takes. -/
inductive Edit where
  | append (parent : String) (child : Element)
  | write (id name value : String)
deriving DecidableEq

def Edit.on {π : Type} [Page π] (p : π) : Edit → Step π PageError Unit
  | .append parent child => Page.appendChild p parent child
  | .write id name value => Page.setAttribute p id name value

/-- The changes that a document takes. -/
inductive DocumentEdit where
  | edit (e : Edit)
  | choose (id : String) (index : Nat)
deriving DecidableEq

def DocumentEdit.on (d : Document) : DocumentEdit → Step Document PageError Unit
  | .edit e => e.on d
  | .choose id index => (d.choose id index).answering ()

/-- No change that fails leaves anything of itself in the page. -/
def Atomic {π κ : Type} (on : π → κ → Step π PageError Unit) : Prop :=
  ∀ p k e, (on p k).result = .error e → (on p k).after = p

theorem Edit.atomic_on {π : Type} [Page π] : Atomic (Edit.on (π := π)) := by
  intro p k e h
  cases k with
  | append parent child => exact Page.after_edit_of_error h
  | write id name value => exact Page.after_edit_of_error h

theorem DocumentEdit.atomic_on : Atomic DocumentEdit.on := by
  intro d k e h
  cases k with
  | edit change => exact Edit.atomic_on d change e h
  | choose id index =>
    exact Document.after_choose_of_error (Step.answering_eq_error_iff.1 h)

/-! ## Operations -/

/-- What a chooser and its page are asked to do, for a page that takes the changes `κ`. -/
inductive Operation (κ : Type) where
  | call (command : Command)
  | change (k : κ)
deriving DecidableEq

namespace Chooser

section Runs

variable {π κ : Type} [Page π] {on : π → κ → Step π PageError Unit} {s : Chooser π}

def operate (on : π → κ → Step π PageError Unit) (s : Chooser π) :
    Operation κ → Step (Chooser π) ChooserError (Option Theme)
  | .call command => s.perform command
  | .change k => (Routine.run s (onPage (on · k))).answering none

def afterOperations (on : π → κ → Step π PageError Unit) (s : Chooser π)
    (os : List (Operation κ)) : Chooser π :=
  os.foldl (fun s o => (s.operate on o).after) s

def outcomes (on : π → κ → Step π PageError Unit) (s : Chooser π) :
    List (Operation κ) → List (Except ChooserError (Option Theme))
  | [] => []
  | o :: os => (s.operate on o).result :: outcomes on (s.operate on o).after os

/-- The operations of a run that succeed. -/
def taken (on : π → κ → Step π PageError Unit) (s : Chooser π) :
    List (Operation κ) → List (Operation κ)
  | [] => []
  | o :: os =>
    if (s.operate on o).result.isOk then o :: taken on (s.operate on o).after os
    else taken on (s.operate on o).after os

/-- The chooser gets whatever page a change leaves, so it has its own page back only if the change
left that. -/
theorem operate_change_eq_error_iff {k : κ} {e : ChooserError} :
    (s.operate on (.change k)).result = .error e ↔
      ∃ e', (on s.page k).result = .error e' ∧ e = .page e' := by
  rw [operate, Step.answering_eq_error_iff]
  cases h : on s.page k with
  | mk result p logs =>
    cases result with
    | ok u => simp [run_onPage_of_ok (f := (on · k)) h]
    | error e' => simp [run_onPage_of_error (f := (on · k)) h, eq_comm]

/-- A failed operation leaves the chooser as it was, with its page. -/
theorem after_of_error (hon : Atomic on) {o : Operation κ} {e : ChooserError}
    (h : (s.operate on o).result = .error e) : (s.operate on o).after = s := by
  cases o with
  | call command => exact perform_of_error h
  | change k =>
    obtain ⟨e', he, -⟩ := operate_change_eq_error_iff.1 h
    show { s with page := (on s.page k).after } = s
    rw [hon s.page k e' he]

theorem afterOperations_cons (o : Operation κ) (os : List (Operation κ)) :
    s.afterOperations on (o :: os) = (s.operate on o).after.afterOperations on os := rfl

theorem afterOperations_append (os more : List (Operation κ)) :
    s.afterOperations on (os ++ more)
      = (s.afterOperations on os).afterOperations on more := List.foldl_append

theorem outcomes_append (os more : List (Operation κ)) :
    s.outcomes on (os ++ more)
      = s.outcomes on os ++ (s.afterOperations on os).outcomes on more := by
  induction os generalizing s with
  | nil => rfl
  | cons o os ih =>
    simp only [List.cons_append, outcomes, afterOperations_cons, ih]

section Atomic

variable (hon : Atomic on)
include hon

theorem afterOperations_taken (os : List (Operation κ)) :
    s.afterOperations on (s.taken on os) = s.afterOperations on os := by
  induction os generalizing s with
  | nil => rfl
  | cons o os ih =>
    cases hr : (s.operate on o).result with
    | ok r => simp [taken, hr, Except.isOk, Except.toBool, afterOperations_cons, ih]
    | error e =>
      have hafter := after_of_error hon hr
      simp only [taken, hr, Except.isOk, Except.toBool, afterOperations_cons, hafter]
      exact ih

theorem outcomes_taken (os : List (Operation κ)) :
    s.outcomes on (s.taken on os) = (s.outcomes on os).filter Except.isOk := by
  induction os generalizing s with
  | nil => rfl
  | cons o os ih =>
    cases hr : (s.operate on o).result with
    | ok r => simp [taken, outcomes, hr, Except.isOk, Except.toBool, List.filter_cons, ih]
    | error e =>
      have hafter := after_of_error hon hr
      simp [taken, outcomes, hr, Except.isOk, Except.toBool, hafter, ih]

theorem afterOperations_of_failed {os : List (Operation κ)}
    (h : ∀ r ∈ s.outcomes on os, r.isOk = false) : s.afterOperations on os = s := by
  have hnone : (s.outcomes on os).filter Except.isOk = [] := by
    rw [List.filter_eq_nil_iff]
    intro r hr
    simp [h r hr]
  rw [← outcomes_taken hon] at hnone
  rw [← afterOperations_taken hon]
  -- a run without outcomes has no operations
  cases ht : s.taken on os with
  | nil => rfl
  | cons o os' =>
    rw [ht] at hnone
    cases hnone

end Atomic

end Runs

/-! ## On a document and on the application's page -/

section Traces

variable {π κ : Type} [Page π]

/-- Each call fails exactly when the page lacks the element it writes to, and names that element. -/
structure FailsForWant (s : Chooser π) : Prop where
  install : ∀ e, s.install.result = .error e ↔
    s.installed = false ∧ Page.element? s.page s.config.menuId = none ∧
      e = .page (.elementNotFound s.config.menuId)
  apply : ∀ t e, (s.apply t).result = .error e ↔
    Page.element? s.page s.config.stylesheetId = none ∧
      e = .page (.elementNotFound s.config.stylesheetId)
  change : ∀ i < 2, ∀ e, (s.change i).result = .error e ↔
    Page.element? s.page s.config.stylesheetId = none ∧
      e = .page (.elementNotFound s.config.stylesheetId)
  change_past : ∀ i, 2 ≤ i → (s.change i).result = .ok none

/-- Failed operations change nothing: a run is worth as much as its operations that succeed, and
after any number of failures everything goes on as if they had not been tried. -/
structure LeavesNoTrace (on : π → κ → Step π PageError Unit) (s : Chooser π) : Prop where
  kept : ∀ o e, (s.operate on o).result = .error e → (s.operate on o).after = s
  taken : ∀ os, s.afterOperations on (s.taken on os) = s.afterOperations on os ∧
    s.outcomes on (s.taken on os) = (s.outcomes on os).filter Except.isOk
  retried : ∀ os more, (∀ r ∈ s.outcomes on os, r.isOk = false) →
    s.afterOperations on (os ++ more) = s.afterOperations on more ∧
      s.outcomes on (os ++ more) = s.outcomes on os ++ s.outcomes on more

theorem failsForWant (s : Chooser π) : s.FailsForWant :=
  ⟨fun _ => install_eq_error_iff, fun _ _ => apply_eq_error_iff,
    fun _ hi _ => change_eq_error_iff hi, fun _ hi => change_of_le hi⟩

theorem leavesNoTrace {on : π → κ → Step π PageError Unit} (hon : Atomic on) (s : Chooser π) :
    s.LeavesNoTrace on := by
  refine ⟨fun _ _ => after_of_error hon, ?_, ?_⟩
  · intro os
    exact ⟨afterOperations_taken hon os, outcomes_taken hon os⟩
  · intro os more h
    have hsame := afterOperations_of_failed hon h
    rw [afterOperations_append, outcomes_append, hsame]
    exact ⟨rfl, rfl⟩

/-- No chooser covers up for its page: what a failed change has written stays in sight. -/
theorem leavesNoTrace_iff {on : π → κ → Step π PageError Unit} :
    (∀ s : Chooser π, s.LeavesNoTrace on) ↔ Atomic on := by
  constructor
  · intro h p k e he
    have hkept := (h (ofPage p {})).kept (.change k) (.page e)
      (operate_change_eq_error_iff.2 ⟨e, he, rfl⟩)
    exact congrArg Chooser.page hkept
  · exact leavesNoTrace

/-- Two changes made as one are not atomic: when the second one fails, the first one stays. -/
example :
    let d := Document.ofElements [{ tag := "div", id := some "menu" }]
    let both := (Page.setAttribute d "menu" "class" "wide").andThen fun _ q =>
      Page.setAttribute q "missing" "class" "wide"
    both.result = .error (.elementNotFound "missing") ∧ both.after ≠ d := by
  intro d both
  exact ⟨rfl, by decide⟩

/-- **Failures.** In every state of a chooser, on a document and on the application's page, calls
fail exactly for want of an element, and failed operations leave no trace. The changes of the page
itself fail exactly when the id leads nowhere, and a choice also when it leads to no select or the
select has no such option; each time the page that is left is the one that was found. -/
theorem failures_leave_no_trace :
    (∀ s : Chooser Document, s.FailsForWant ∧ s.LeavesNoTrace DocumentEdit.on) ∧
    (∀ s : Chooser Shell, s.FailsForWant ∧ s.LeavesNoTrace Edit.on) ∧
    (∀ (d : Document) (id : String),
      (∀ child, Page.Refuses d (Page.appendChild d id child) fun e =>
        d.find? id = none ∧ e = .elementNotFound id) ∧
      (∀ name value, Page.Refuses d (Page.setAttribute d id name value) fun e =>
        d.find? id = none ∧ e = .elementNotFound id) ∧
      (∀ index, Page.Refuses d (d.choose id index) fun e =>
        (d.find? id = none ∧ e = .elementNotFound id) ∨
        ∃ n, d.find? id = some n ∧
          ((n.tag ≠ "select" ∧ e = .notASelector id) ∨
            (n.tag = "select" ∧ n.options.length ≤ index ∧
              e = .optionOutOfRange id index n.options.length)))) ∧
    (∀ (p : Shell) (id : String),
      (∀ child, Page.Refuses p (Page.appendChild p id child) fun e =>
        p.element? id = none ∧ e = .elementNotFound id) ∧
      (∀ name value, Page.Refuses p (Page.setAttribute p id name value) fun e =>
        p.element? id = none ∧ e = .elementNotFound id)) := by
  refine ⟨?_, ?_, ?_, ?_⟩
  · intro s
    exact ⟨failsForWant s, leavesNoTrace_iff.2 DocumentEdit.atomic_on s⟩
  · intro s
    exact ⟨failsForWant s, leavesNoTrace_iff.2 Edit.atomic_on s⟩
  · intro d id
    refine ⟨fun _ => Page.refuses_edit d id _, fun _ _ => Page.refuses_edit d id _, ?_⟩
    intro index
    exact ⟨fun _ => Document.choose_eq_error_iff, fun _ => Document.after_choose_of_error⟩
  · intro p id
    exact ⟨fun _ => Page.refuses_edit p id _, fun _ _ => Page.refuses_edit p id _⟩

/-- A document without a menu: two calls and a choice fail, then the menu is put in and the third
`install` does what the first would have done there. -/
theorem failures_leave_no_trace_retry :
    let top : Element := { tag := "header", id := some "top" }
    let menu : Element := { tag := "div", id := some "menu" }
    let s := ofPage (Document.ofElements [top]) {}
    let failed : List (Operation DocumentEdit) :=
      [.call .install, .call (.apply .dark), .change (.choose "top" 0)]
    let more : List (Operation DocumentEdit) :=
      [.change (.edit (.append "top" menu)), .call .install]
    s.outcomes DocumentEdit.on failed
        = [.error (.page (.elementNotFound "menu")), .error (.page (.elementNotFound "color_css")),
          .error (.page (.notASelector "top"))] ∧
      s.afterOperations DocumentEdit.on (failed ++ more)
        = s.afterOperations DocumentEdit.on more ∧
      (s.afterOperations DocumentEdit.on more).installed = true := by
  intro top menu s failed more
  obtain ⟨-, htrace⟩ := failures_leave_no_trace.1 s
  have hfailed : ∀ r ∈ s.outcomes DocumentEdit.on failed, r.isOk = false := by decide
  exact ⟨rfl, (htrace.retried failed more hfailed).1, rfl⟩

end Traces

end Chooser
end ThemeMenu
