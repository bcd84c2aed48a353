import ThemeMenu.App.Session
import ThemeMenu.Proofs.Chooser.Calls

/-!
# ThemeMenu.Proofs.App.Action

Runs of a session: calls on its chooser and change events of its select, in any order. An event
whose value is a numeral is a change of the selection; any other event is nothing to the chooser.

* `Action`, `Session.act`, `Session.reply`: one step of a run, and what it returns.
* `chooser_afterActions`: on the chooser, a run of actions is a run of calls.
* `error_act`: the shown error comes from failed changes alone.
-/

namespace ThemeMenu

inductive Action where
  | call (command : Command)
  | event (value : String)
deriving DecidableEq, Repr

/-- The call that an action makes on the chooser. -/
def Action.command? : Action → Option Command
  | .call command => some command
  | .event value => (numeral? value).map .change

namespace Session

def act (s : Session) : Action → Session
  | .call command => { s with chooser := (s.chooser.perform command).after }
  | .event value => s.pick value

def reply (s : Session) : Action → Except ChooserError (Option Theme)
  | .call command => (s.chooser.perform command).result
  | .event value =>
    match numeral? value with
    | some index => (s.chooser.change index).result
    | none => .ok none

def afterActions (s : Session) (as : List Action) : Session := as.foldl act s

variable {s : Session} {a : Action}

theorem act_of_command {command : Command} (h : a.command? = some command) :
    (s.act a).chooser = (s.chooser.perform command).after ∧
      s.reply a = (s.chooser.perform command).result := by
  cases a with
  | call command' =>
    cases h
    exact ⟨rfl, rfl⟩
  | event value =>
    obtain ⟨index, hv, rfl⟩ := Option.map_eq_some_iff.1 h
    simp only [act, reply, pick, hv, Chooser.perform]
    split <;> exact ⟨rfl, trivial⟩

theorem act_of_no_command (h : a.command? = none) : s.act a = s ∧ s.reply a = .ok none := by
  cases a with
  | call command => cases h
  | event value =>
    have hv : numeral? value = none := Option.map_eq_none_iff.1 h
    simp only [act, reply, pick, hv, and_self]

theorem error_act (hs : s.error = none) {r : Option Theme} (hr : s.reply a = .ok r) :
    (s.act a).error = none := by
  cases a with
  | call command => exact hs
  | event value =>
    cases hv : numeral? value with
    | none => simp only [act, pick, hv, hs]
    | some index =>
      simp only [reply, hv] at hr
      simp only [act, pick, hv, hr]

theorem afterActions_append (s : Session) (as bs : List Action) :
    s.afterActions (as ++ bs) = (s.afterActions as).afterActions bs := List.foldl_append

theorem chooser_afterActions (s : Session) (as : List Action) :
    (s.afterActions as).chooser = s.chooser.afterAll (as.filterMap Action.command?) := by
  induction as generalizing s with
  | nil => rfl
  | cons a as ih =>
    have hstep : s.afterActions (a :: as) = (s.act a).afterActions as := rfl
    rw [hstep, ih]
    cases h : a.command? with
    | none => rw [(act_of_no_command h).1, List.filterMap_cons_none h]
    | some command => rw [(act_of_command h).1, List.filterMap_cons_some h, Chooser.afterAll_cons]

end Session
end ThemeMenu
