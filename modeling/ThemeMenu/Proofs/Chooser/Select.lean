import ThemeMenu.Chooser.Basic
import ThemeMenu.Element.Select
import ThemeMenu.Proofs.Tree.Address

/-!
# ThemeMenu.Proofs.Chooser.Select

The select a chooser builds. It has two options, one of them chosen, and it is fully told by the
theme it was built with: choosing another option gives the select that is built with the theme of
that option.

* `choose_selectFor`: choosing in a built select.
* `locate?_selectFor`: the only id in a built select is its own.
-/

namespace ThemeMenu
namespace Chooser

variable {c : Config} {t u : Theme} {id : String}

theorem children_selectFor (c : Config) (t : Theme) :
    (selectFor c t).children
      = [optionFor c.light.label (t = .light), optionFor c.dark.label (t = .dark)] := by
  cases t <;> rfl

@[simp] theorem isSelect_selectFor (c : Config) (t : Theme) : (selectFor c t).isSelect = true := rfl

@[simp] theorem isOption_optionFor (label : String) (chosen : Bool) :
    (optionFor label chosen).isOption = true := rfl

@[simp] theorem isChosen_optionFor (label : String) (chosen : Bool) :
    (optionFor label chosen).isChosen = chosen := by
  cases chosen <;> rfl

theorem options_selectFor (c : Config) (t : Theme) :
    (selectFor c t).options
      = [optionFor c.light.label (t = .light), optionFor c.dark.label (t = .dark)] := by
  simp [Element.options, children_selectFor]

theorem selectedIndex?_selectFor (c : Config) (t : Theme) :
    (selectFor c t).selectedIndex? = some t.index := by
  cases t <;> simp [Element.selectedIndex?, options_selectFor, List.findIdx?_cons, Theme.index]

/-- Exactly one of the two options is chosen. -/
theorem countP_isChosen_selectFor (c : Config) (t : Theme) :
    (selectFor c t).options.countP Element.isChosen = 1 := by
  cases t <;> simp [options_selectFor]

@[simp] theorem mark_optionFor (label : String) (b chosen : Bool) :
    (optionFor label chosen).mark b = optionFor label b := by
  cases b <;> cases chosen <;> rfl

theorem choose_selectFor (c : Config) (t u : Theme) :
    (selectFor c t).choose u.index = selectFor c u := by
  have hc : Element.chooseAmong (some u.index) (selectFor c t).children
      = (selectFor c u).children := by
    rw [children_selectFor, children_selectFor]
    cases u <;> simp [Element.chooseAmong, Theme.index]
  rw [Element.choose, hc]
  rfl

theorem locate?_selectFor_of_ne (h : id ≠ c.selectorId) : (selectFor c t).locate? id = none := by
  have hid : (selectFor c t).id ≠ some id := fun e => h (Option.some.inj e).symm
  have hc : Element.locateAmong? id (selectFor c t).children = none := by
    rw [Element.locateAmong?_eq_none_iff, children_selectFor]
    intro e he
    simp only [List.mem_cons, List.not_mem_nil, or_false] at he
    rcases he with rfl | rfl <;> rfl
  rw [Element.locate?_eq, if_neg hid, hc, Option.map_none]

theorem locate?_selectFor (c : Config) (t : Theme) :
    (selectFor c t).locate? c.selectorId = some [] :=
  Element.locate?_eq_nil rfl

end Chooser
end ThemeMenu
