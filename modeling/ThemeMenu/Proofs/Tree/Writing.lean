import ThemeMenu.Proofs.Tree.Alike

/-!
# ThemeMenu.Proofs.Tree.Writing

Writing one attribute of one element of a tree. Only the attributes of that element change; the tree
without attributes, and with it the way that ids lead through the tree, stays as it is. Two such
writes commute except where each of them brings a new name to one element: new names go to the end,
in the order in which they come.

* `Element.bare`: a tree without its attributes.
* `bare_modifyAt`, `alone_at?_modifyAt_setAttribute`: what a write leaves as it is.
* `Attributes.put_comm_iff`, `setAttribute_comm_iff`: two writes to one element.
* `modifyAt_setAttribute_comm`: writes to two elements.
-/

namespace ThemeMenu

namespace Attributes

variable {a : Attributes} {m n v w : String} {ps : List (String × String)}

/-- A name that is there keeps its place, so the other name can come before or after it. -/
theorem replace_comm_of_mem (hne : m ≠ n) (h : m ∈ ps.map (·.1)) :
    replace n w (replace m v ps) = replace m v (replace n w ps) := by
  induction ps with
  | nil => cases h
  | cons p ps ih =>
    by_cases hm : p.1 = m
    · simp only [replace, hm, if_true, hne, if_false]
    · have hrest : m ∈ ps.map (·.1) := by
        rcases List.mem_cons.1 h with he | hrest
        · exact absurd he.symm hm
        · exact hrest
      by_cases hn : p.1 = n
      · simp only [replace, hn, if_true, Ne.symm hne, if_false]
      · simp only [replace, hm, hn, if_false, ih hrest]

theorem put_comm_of_has (hne : m ≠ n) (h : a.has m = true) :
    (a.put m v).put n w = (a.put n w).put m v := by
  rw [has_iff_mem_names] at h
  simp only [put, replace_comm_of_mem hne h]

theorem put_comm_iff (hne : m ≠ n) :
    (a.put m v).put n w = (a.put n w).put m v ↔ a.has m = true ∨ a.has n = true := by
  constructor
  · intro h
    apply Classical.byContradiction
    intro hnew
    rw [not_or, has_iff_mem_names, has_iff_mem_names] at hnew
    obtain ⟨hm, hn⟩ := hnew
    -- both names are new: they end up in the order in which they were written
    have hnames := congrArg names h
    simp only [names_put, hm, hn, if_false, List.mem_append, List.mem_singleton, hne, Ne.symm hne,
      or_false, List.append_assoc, List.append_cancel_left_eq, List.singleton_append,
      List.cons.injEq] at hnames
    exact hnames.1
  · rintro (hm | hn)
    · exact put_comm_of_has hne hm
    · exact (put_comm_of_has (Ne.symm hne) hn).symm

end Attributes

namespace Element

/-! ## Without attributes -/

mutual

/-- The tree with its tags, ids and texts, and no attributes. -/
def bare : Element → Element
  | ⟨tag, id, _, text, children⟩ => ⟨tag, id, {}, text, bareAll children⟩

def bareAll : List Element → List Element
  | [] => []
  | e :: es => bare e :: bareAll es

end

section Bare

variable {f : Element → Element} {es : List Element}

theorem bare_eq (e : Element) :
    e.bare = { e with attributes := {}, children := bareAll e.children } := by
  cases e
  simp only [bare]

theorem bareAll_modify (hf : ∀ e, (f e).bare = e.bare) (i : Nat) :
    bareAll (es.modify i f) = bareAll es := by
  induction es generalizing i with
  | nil => rw [List.modify_nil]
  | cons e es ih =>
    cases i with
    | zero => simp only [List.modify_zero_cons, bareAll, hf]
    | succ i => simp only [List.modify_succ_cons, bareAll, ih]

theorem bare_modifyAt (hf : ∀ e, (f e).bare = e.bare) (a : Address) (e : Element) :
    (e.modifyAt f a).bare = e.bare := by
  induction a generalizing e with
  | nil => exact hf e
  | cons i a ih => rw [bare_eq, bare_eq, modifyAt, bareAll_modify ih]

theorem bare_setAttribute (name value : String) (e : Element) :
    (e.setAttribute name value).bare = e.bare := by
  rw [bare_eq, bare_eq, setAttribute]

end Bare

/-! ## Two writes -/

section Write

variable {e : Element} {m n v w : String} {a b : Address}

theorem setAttribute_comm_iff (hne : m ≠ n) :
    (e.setAttribute m v).setAttribute n w = (e.setAttribute n w).setAttribute m v ↔
      ¬ (e.attribute? m = none ∧ e.attribute? n = none) := by
  have hput := Attributes.put_comm_iff (a := e.attributes) (v := v) (w := w) hne
  simp only [Attributes.has, Option.isSome_iff_ne_none, ← not_and_or] at hput
  rw [attribute?, attribute?, ← hput]
  constructor
  · intro h
    exact congrArg attributes h
  · intro h
    simp only [setAttribute, h]

theorem alone_at?_modifyAt_setAttribute (hb : b ≠ a) (name value : String) (e : Element) :
    ((e.modifyAt (·.setAttribute name value) a).at? b).map alone = (e.at? b).map alone := by
  by_cases hp : a <+: b
  · obtain ⟨c, rfl⟩ := hp
    rw [at?_append, at?_append, at?_modifyAt]
    cases c with
    | nil => exact absurd (List.append_nil a) hb
    | cons i c => cases e.at? a <;> rfl
  · exact alone_at?_modifyAt hp _ e

theorem modifyAt_setAttribute_comm (hab : a ≠ b) (m v n w : String) (e : Element) :
    (e.modifyAt (·.setAttribute m v) a).modifyAt (·.setAttribute n w) b
      = (e.modifyAt (·.setAttribute n w) b).modifyAt (·.setAttribute m v) a := by
  induction a generalizing b e with
  | nil =>
    cases b with
    | nil => exact absurd rfl hab
    | cons j b => rfl
  | cons i a ih =>
    cases b with
    | nil => rfl
    | cons j b =>
      simp only [modifyAt]
      congr 1
      by_cases hij : i = j
      · subst hij
        have hne : a ≠ b := fun he => hab (congrArg (i :: ·) he)
        rw [List.modify_modify_eq, List.modify_modify_eq]
        apply modify_congr
        intro child _
        exact ih hne child
      · rw [List.modify_modify_ne _ _ _ hij]

end Write

end Element
end ThemeMenu
