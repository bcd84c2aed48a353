import ThemeMenu.Element.Select
import ThemeMenu.Proofs.Tree.Commute

/-!
# ThemeMenu.Proofs.Tree.Choosing

Choosing an option of an element. Every option gets its mark or loses it, according to its position
among the options; the other children keep their places between them and are not looked at. Nothing
but the marks changes, so what was chosen before matters only for the place of a mark among the
attributes of its option.

* `Element.rank`: the position among the options that belongs to a place among the children.
* `getElem?_chooseAmong`, `getElem?_options_choose`: the children and the options afterwards.
* `selectedIndex?_choose`: the option that is shown as chosen.
* `locate?_choose`, `alone_at?_choose`: what choosing leaves alone.
* `unmarked_choose`: without the marks, choosing changes nothing.
-/

namespace ThemeMenu

namespace Attributes

variable {a : Attributes} {name value : String}

theorem erase_erase (a : Attributes) (name : String) :
    (a.erase name).erase name = a.erase name := by
  simp [erase]

theorem erase_put (a : Attributes) (name value : String) :
    (a.put name value).erase name = a.erase name := by
  obtain ⟨ps⟩ := a
  simp only [erase, put, mk.injEq]
  induction ps with
  | nil => simp [replace]
  | cons p ps ih =>
    by_cases hp : p.1 = name
    · simp [replace, hp]
    · simp only [replace, hp, if_false, List.filter_cons, ih]

end Attributes

namespace Element

section Mark

variable (e : Element) (b c : Bool)

@[simp] theorem id_mark : (e.mark b).id = e.id := by cases b <;> rfl

@[simp] theorem children_mark : (e.mark b).children = e.children := by cases b <;> rfl

@[simp] theorem isOption_mark : (e.mark b).isOption = e.isOption := by cases b <;> rfl

/-- A mark is an attribute without a value. -/
theorem selected_mark : (e.mark b).attribute? "selected" = if b then some "" else none := by
  cases b with
  | true => exact attribute?_setAttribute e "selected" ""
  | false => simp [mark, attribute?, removeAttribute, Attributes.get?_erase]

@[simp] theorem isChosen_mark : (e.mark b).isChosen = b := by
  have h := selected_mark e b
  rw [attribute?] at h
  rw [isChosen, hasAttribute, Attributes.has, h]
  cases b <;> rfl

/-- The other attributes keep their values and their order. -/
theorem erase_attributes_mark :
    (e.mark b).attributes.erase "selected" = e.attributes.erase "selected" := by
  cases b with
  | true => exact Attributes.erase_put e.attributes "selected" ""
  | false => exact Attributes.erase_erase e.attributes "selected"

theorem mark_of_attributes : { e.mark b with attributes := e.attributes } = e := by
  cases e
  cases b <;> rfl

@[simp] theorem mark_mark_self : (e.mark b).mark b = e.mark b := by
  cases b with
  | true => exact setAttribute_setAttribute e "selected" "" ""
  | false => simp [mark, removeAttribute, Attributes.erase_erase]

/-- Taking a mark away takes it away whether or not it was there. -/
@[simp] theorem mark_false_mark : (e.mark b).mark false = e.mark false := by
  have h := erase_attributes_mark e b
  simp only [mark, removeAttribute, Bool.false_eq_true, if_false] at h ⊢
  cases b with
  | true => simp only [if_true, setAttribute] at h ⊢; rw [h]
  | false => simp only [Bool.false_eq_true, if_false] at h ⊢; rw [h]

theorem locate?_mark (id : String) : (e.mark b).locate? id = e.locate? id := by
  simp only [locate?_eq, id_mark, children_mark]

end Mark

/-! ## Among the children -/

/-- Where the option to be chosen lies when one more option has gone by. -/
def onward : Option Nat → Option Nat
  | some (n + 1) => some n
  | _ => none

@[simp] theorem onward_eq_some_iff {i : Option Nat} {k : Nat} :
    onward i = some k ↔ i = some (k + 1) := by
  match i with
  | none => simp [onward]
  | some 0 => simp [onward]
  | some (n + 1) => simp [onward]

/-- The number of options before a place. -/
def rank (p : Nat) (es : List Element) : Nat := (es.take p).countP isOption

section Among

variable {e c : Element} {es : List Element}

theorem chooseAmong_cons_option (h : e.isOption = true) (i : Option Nat) (es : List Element) :
    chooseAmong i (e :: es) = e.mark (i = some 0) :: chooseAmong (onward i) es := by
  match i with
  | none => simp [chooseAmong, h, onward]
  | some 0 => simp [chooseAmong, h, onward]
  | some (n + 1) => simp [chooseAmong, h, onward]

theorem chooseAmong_cons_other (h : e.isOption = false) (i : Option Nat) (es : List Element) :
    chooseAmong i (e :: es) = e :: chooseAmong i es := by
  simp [chooseAmong, h]

theorem rank_succ_option (h : e.isOption = true) (p : Nat) :
    rank (p + 1) (e :: es) = rank p es + 1 := by
  simp [rank, h]

theorem rank_succ_other (h : e.isOption = false) (p : Nat) :
    rank (p + 1) (e :: es) = rank p es := by
  simp [rank, h]

@[simp] theorem length_chooseAmong (i : Option Nat) (es : List Element) :
    (chooseAmong i es).length = es.length := by
  induction es generalizing i with
  | nil => rfl
  | cons e es ih =>
    cases he : e.isOption with
    | true => rw [chooseAmong_cons_option he, List.length_cons, ih, List.length_cons]
    | false => rw [chooseAmong_cons_other he, List.length_cons, ih, List.length_cons]

theorem getElem?_chooseAmong (i : Option Nat) (es : List Element) (p : Nat) :
    (chooseAmong i es)[p]?
      = es[p]?.map fun c => if c.isOption then c.mark (i = some (rank p es)) else c := by
  induction es generalizing i p with
  | nil => rfl
  | cons e es ih =>
    cases he : e.isOption with
    | true =>
      rw [chooseAmong_cons_option he]
      cases p with
      | zero =>
        show some (e.mark (i = some 0)) = some (if e.isOption then e.mark (i = some 0) else e)
        rw [if_pos he]
      | succ p => simp only [List.getElem?_cons_succ, ih, rank_succ_option he, onward_eq_some_iff]
    | false =>
      rw [chooseAmong_cons_other he]
      cases p with
      | zero => simp [he]
      | succ p => simp only [List.getElem?_cons_succ, ih, rank_succ_other he]

/-- The options in their order, each with its mark or without. -/
theorem getElem?_filter_chooseAmong (i : Option Nat) (es : List Element) (k : Nat) :
    ((chooseAmong i es).filter isOption)[k]?
      = (es.filter isOption)[k]?.map (·.mark (i = some k)) := by
  induction es generalizing i k with
  | nil => rfl
  | cons e es ih =>
    cases he : e.isOption with
    | true =>
      rw [chooseAmong_cons_option he, List.filter_cons_of_pos (by simp [he]),
        List.filter_cons_of_pos he]
      cases k with
      | zero => rfl
      | succ k => simp only [List.getElem?_cons_succ, ih, onward_eq_some_iff]
    | false =>
      have hne : ¬ e.isOption = true := by simp [he]
      rw [chooseAmong_cons_other he, List.filter_cons_of_neg hne, List.filter_cons_of_neg hne, ih]

/-- A child that is an option has the position among the options that belongs to its place. -/
theorem getElem?_rank {p : Nat} (hc : es[p]? = some c) (ho : c.isOption = true) :
    (es.filter isOption)[rank p es]? = some c := by
  induction es generalizing p with
  | nil => simp at hc
  | cons e es ih =>
    cases p with
    | zero =>
      obtain rfl : e = c := by simpa using hc
      rw [List.filter_cons_of_pos ho]
      rfl
    | succ p =>
      have hc' := ih (p := p) (by simpa using hc)
      cases he : e.isOption with
      | true => rw [rank_succ_option he, List.filter_cons_of_pos he, List.getElem?_cons_succ, hc']
      | false => rw [rank_succ_other he, List.filter_cons_of_neg (by simp [he]), hc']

theorem chooseAmong_chooseAmong_self (i : Option Nat) (es : List Element) :
    chooseAmong i (chooseAmong i es) = chooseAmong i es := by
  induction es generalizing i with
  | nil => rfl
  | cons e es ih =>
    cases he : e.isOption with
    | true =>
      rw [chooseAmong_cons_option he, chooseAmong_cons_option (by simp [he]), ih, mark_mark_self]
    | false => rw [chooseAmong_cons_other he, chooseAmong_cons_other he, ih]

/-- Taking all marks away takes away what was chosen before. -/
theorem chooseAmong_none_chooseAmong (i : Option Nat) (es : List Element) :
    chooseAmong none (chooseAmong i es) = chooseAmong none es := by
  induction es generalizing i with
  | nil => rfl
  | cons e es ih =>
    cases he : e.isOption with
    | true =>
      have hnone : ¬ (none : Option Nat) = some 0 := nofun
      rw [chooseAmong_cons_option he, chooseAmong_cons_option (by simp [he]),
        chooseAmong_cons_option he]
      simp only [hnone, decide_false, mark_false_mark, onward, ih]
    | false =>
      rw [chooseAmong_cons_other he, chooseAmong_cons_other he, chooseAmong_cons_other he, ih]

theorem locateAmong?_chooseAmong (id : String) (i : Option Nat) (es : List Element) :
    locateAmong? id (chooseAmong i es) = locateAmong? id es := by
  induction es generalizing i with
  | nil => rfl
  | cons e es ih =>
    cases he : e.isOption with
    | true => rw [chooseAmong_cons_option he]; simp only [locateAmong?, locate?_mark, ih]
    | false => rw [chooseAmong_cons_other he]; simp only [locateAmong?, ih]

end Among

/-! ## In an element -/

section Choose

variable {e c : Element} {i : Nat}

theorem selectedIndex?_of_options (hs : e.isSelect = true) (ho : e.options ≠ []) :
    e.selectedIndex? = some ((e.options.findIdx? isChosen).getD 0) := by
  rw [selectedIndex?, if_pos hs]
  split
  · contradiction
  · rfl

theorem selectedIndex?_of_findIdx? (hs : e.isSelect = true)
    (hi : e.options.findIdx? isChosen = some i) : e.selectedIndex? = some i := by
  have ho : e.options ≠ [] := by
    intro ho
    rw [ho] at hi
    cases hi
  rw [selectedIndex?_of_options hs ho, hi, Option.getD_some]

theorem getElem?_options_choose (i : Nat) (e : Element) (k : Nat) :
    (e.choose i).options[k]? = e.options[k]?.map (·.mark (i = k)) := by
  have h := getElem?_filter_chooseAmong (some i) e.children k
  simp only [Option.some_inj] at h
  exact h

@[simp] theorem length_options_choose (i : Nat) (e : Element) :
    (e.choose i).options.length = e.options.length := by
  apply Nat.le_antisymm
  · rw [← List.getElem?_eq_none_iff, getElem?_options_choose, List.getElem?_eq_none (Nat.le_refl _)]
    rfl
  · rw [← List.getElem?_eq_none_iff]
    have h := getElem?_options_choose i e (e.choose i).options.length
    rw [List.getElem?_eq_none (Nat.le_refl _)] at h
    exact Option.map_eq_none_iff.1 h.symm

theorem choose_choose_self (i : Nat) (e : Element) : (e.choose i).choose i = e.choose i := by
  simp only [choose, chooseAmong_chooseAmong_self]

/-- The chosen option is the first one with a mark: it is the only one. -/
theorem selectedIndex?_choose (hs : e.isSelect = true) (hi : i < e.options.length) :
    (e.choose i).selectedIndex? = some i := by
  have hchosen : ∀ k o, (e.choose i).options[k]? = some o → o.isChosen = decide (i = k) := by
    intro k o ho
    rw [getElem?_options_choose] at ho
    obtain ⟨o', -, rfl⟩ := Option.map_eq_some_iff.1 ho
    exact isChosen_mark o' _
  have hi' : i < (e.choose i).options.length := by rwa [length_options_choose]
  have hfirst : (e.choose i).options.findIdx? isChosen = some i := by
    rw [List.findIdx?_eq_some_iff_getElem]
    refine ⟨hi', ?_, ?_⟩
    · rw [hchosen i _ (List.getElem?_eq_getElem hi'), decide_eq_true rfl]
    · intro j hj
      rw [hchosen j _ (List.getElem?_eq_getElem (Nat.lt_trans hj hi'))]
      simpa using Nat.ne_of_gt hj
  exact selectedIndex?_of_findIdx? hs hfirst

theorem locate?_choose (id : String) (i : Nat) (e : Element) :
    (e.choose i).locate? id = e.locate? id := by
  rw [locate?_eq, locate?_eq]
  simp only [choose, locateAmong?_chooseAmong]

/-- Of all places below an element only those of its options can change. -/
theorem alone_at?_choose {a : Address}
    (h : ∀ p c, a = [p] → e.children[p]? = some c → c.isOption = false) (i : Nat) :
    ((e.choose i).at? a).map alone = (e.at? a).map alone := by
  cases a with
  | nil => rfl
  | cons p a =>
    simp only [choose, at?_cons, getElem?_chooseAmong]
    cases hc : e.children[p]? with
    | none => rfl
    | some c =>
      cases ho : c.isOption with
      | false => simp [ho]
      | true =>
        cases a with
        | nil =>
          rw [h p c rfl hc] at ho
          cases ho
        | cons q a => simp [ho, at?_cons]

/-- The element with no option chosen. -/
def unmarked (e : Element) : Element := { e with children := chooseAmong none e.children }

theorem unmarked_choose (i : Nat) (e : Element) : (e.choose i).unmarked = e.unmarked := by
  simp only [unmarked, choose, chooseAmong_none_chooseAmong]

end Choose

end Element
end ThemeMenu
