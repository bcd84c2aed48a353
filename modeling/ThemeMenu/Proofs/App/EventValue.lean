import ThemeMenu.Proofs.App.Action
import ThemeMenu.Proofs.Text.Numeral

/-!
# ThemeMenu.Proofs.App.EventValue

The values of change events. Any text can come in as a value. One that writes a number up to the
limit of indices is a change to that index, with all that follows from it; any other is answered by
a warning. Numbers past the limit are not reduced, so only a value that is worth 0 or 1 can put a
theme into use.

* `Session.Obeys`, `Session.Ignores`: the two ways to answer an event.
* `obeys_of_writes`, `ignores_of_past_limit`: which value gets which answer.
* `writes_of_chooser_ne`: the values that reach the page.
* `pick_reads_index`: all values, in every state, and runs of events.
-/

namespace ThemeMenu

theorem Numeral.Writes.unique {s : String} {n m : Nat} (hn : Writes s n) (hm : Writes s m) :
    n = m := by
  rw [writes_iff] at hn hm
  exact Option.some.inj (hn.symm.trans hm)

theorem Chooser.after_change_of_le {π : Type} [Page π] {s : Chooser π} {n : Nat} (hn : 2 ≤ n) :
    (s.change n).after = s :=
  (change_of_no_theme (Theme.ofIndex?_eq_none_iff.2 hn)).2

namespace Session

open Numeral (Writes limit)

/-- The event is a change to the index `n`. The error of the change is shown, or none if it has
none; that the index may have no theme is no error. -/
structure Obeys (s : Session) (value : String) (n : Nat) : Prop where
  chooser : (s.pick value).chooser = (s.chooser.change n).after
  cleared : ∀ t, (s.chooser.change n).result = .ok t → (s.pick value).error = none
  shown : ∀ e, (s.chooser.change n).result = .error e → (s.pick value).error = some e.message

structure Ignores (s : Session) (value : String) : Prop where
  same : s.pick value = s
  warned : s.pickLog value = [Log.warn ("Option value " ++ value ++ " is not an index")]

variable {s : Session} {value : String} {n : Nat}

theorem obeys_of_writes (hw : Writes value n) (hn : n ≤ limit) : s.Obeys value n := by
  have hv : numeral? value = some n := numeral?_eq_some_iff.2 ⟨hw, hn⟩
  cases hr : (s.chooser.change n).result with
  | ok t =>
    have hpick : s.pick value = ⟨(s.chooser.change n).after, none⟩ := by simp only [pick, hv, hr]
    refine ⟨by rw [hpick], fun _ _ => by rw [hpick], ?_⟩
    intro e he
    rw [hr] at he
    cases he
  | error e =>
    have hpick : s.pick value = ⟨(s.chooser.change n).after, some e.message⟩ := by
      simp only [pick, hv, hr]
    refine ⟨by rw [hpick], ?_, ?_⟩
    · intro t ht
      rw [hr] at ht
      cases ht
    · intro e' he
      rw [hr] at he
      cases he
      rw [hpick]

/-- A value that writes no number up to the limit: it writes a larger one, or none at all. -/
theorem ignores_of_past_limit (h : ∀ n, Writes value n → limit < n) : s.Ignores value := by
  have hv : numeral? value = none := by
    rw [Option.eq_none_iff_forall_ne_some]
    intro n hn
    obtain ⟨hw, hle⟩ := numeral?_eq_some_iff.1 hn
    exact absurd (h n hw) (Nat.not_lt.2 hle)
  constructor
  · simp only [pick, hv]
  · simp only [pickLog, hv]

theorem past_limit_or_writes (value : String) :
    (∀ n, Writes value n → limit < n) ∨ ∃ n, Writes value n ∧ n ≤ limit := by
  by_cases h : ∃ n, Writes value n ∧ n ≤ limit
  · exact .inr h
  · left
    intro n hw
    exact Nat.lt_of_not_le fun hle => h ⟨n, hw, hle⟩

/-- An event that changes anything of the chooser or its page writes the index of a theme. -/
theorem writes_of_chooser_ne (h : (s.pick value).chooser ≠ s.chooser) :
    Writes value 0 ∨ Writes value 1 := by
  obtain hpast | ⟨n, hw, hn⟩ := past_limit_or_writes value
  · rw [(ignores_of_past_limit hpast).same] at h
    exact absurd rfl h
  · rw [(obeys_of_writes hw hn).chooser] at h
    match n with
    | 0 => exact .inl hw
    | 1 => exact .inr hw
    | n + 2 => exact absurd (Chooser.after_change_of_le (Nat.le_add_left 2 n)) h

theorem chooser_afterActions_of_idle {events : List String}
    (h : ∀ v ∈ events, ¬ Writes v 0 ∧ ¬ Writes v 1) :
    (s.afterActions (events.map .event)).chooser = s.chooser := by
  induction events generalizing s with
  | nil => rfl
  | cons value events ih =>
    obtain ⟨hvalue, hevents⟩ := List.forall_mem_cons.1 h
    have hsame : (s.pick value).chooser = s.chooser :=
      Classical.byContradiction fun hne => not_or.2 hvalue (writes_of_chooser_ne hne)
    have hrest : ((s.pick value).afterActions (events.map .event)).chooser
        = (s.pick value).chooser := ih hevents
    exact hrest.trans hsame

/-- **A change event is read as an index, or not at all.** In every state, a value that writes a
number up to the limit is a change to that index; every other value, a number past the limit
included, leaves the session as it is and is reported once. So the theme in use and the link change
only when a value is worth 0 or 1, in a single event and in a run of any length. -/
theorem pick_reads_index (s : Session) (value : String) :
    (∀ n, Writes value n → n ≤ limit → s.Obeys value n) ∧
    ((∀ n, Writes value n → limit < n) → s.Ignores value) ∧
    (∀ n, Writes value n → limit < n → s.Ignores value) ∧
    ((s.pick value).chooser.selected ≠ s.chooser.selected ∨
        (s.pick value).chooser.page ≠ s.chooser.page → Writes value 0 ∨ Writes value 1) ∧
    ∀ events : List String, (∀ v ∈ events, ¬ Writes v 0 ∧ ¬ Writes v 1) →
      (s.afterActions (events.map .event)).chooser = s.chooser := by
  refine ⟨fun n => obeys_of_writes, ignores_of_past_limit, ?_, ?_,
    fun _ => chooser_afterActions_of_idle⟩
  · intro n hw hn
    apply ignores_of_past_limit
    intro m hm
    rwa [hm.unique hw]
  · intro h
    apply writes_of_chooser_ne
    intro he
    rw [he] at h
    exact h.elim (absurd rfl) (absurd rfl)

/-- Dark by its index with a sign and zeros before it; the two numbers past the limit that would
wrap around to the themes; and an index without a theme. -/
theorem pick_reads_index_wrapped :
    let s := ofConfig {}
    (s.pick "+0001").chooser = (s.chooser.change 1).after ∧
      (s.pick "+0001").chooser.selected = .dark ∧
      s.pick "18446744073709551616" = s ∧ s.pick "18446744073709551617" = s ∧
      ({ s with error := some "?" }.pick "18446744073709551615").error = none ∧
      s.pick "-1" = s := by
  intro s
  have hdark : Writes "+0001" 1 := Numeral.writes_iff.2 (by decide)
  have hlight' : Writes "18446744073709551616" 18446744073709551616 :=
    Numeral.writes_iff.2 (by decide +kernel)
  have hdark' : Writes "18446744073709551617" 18446744073709551617 :=
    Numeral.writes_iff.2 (by decide +kernel)
  have hlast : Writes "18446744073709551615" 18446744073709551615 :=
    Numeral.writes_iff.2 (by decide +kernel)
  have hminus : ∀ n, Writes "-1" n → limit < n := by
    intro n hn
    cases Numeral.writes_iff.1 hn
  have hobeys := (pick_reads_index s "+0001").1 1 hdark (by decide)
  have hlight := (pick_reads_index s "18446744073709551616").2.2.1 _ hlight' (by decide)
  have hwrapped := (pick_reads_index s "18446744073709551617").2.2.1 _ hdark' (by decide)
  have hcleared := (pick_reads_index { s with error := some "?" } "18446744073709551615").1 _ hlast
    (by decide)
  refine ⟨hobeys.chooser, ?_, hlight.same, hwrapped.same, ?_, ?_⟩
  · rw [hobeys.chooser]
    decide
  · exact hcleared.cleared none rfl
  · exact ((pick_reads_index s "-1").2.1 hminus).same

end Session
end ThemeMenu
