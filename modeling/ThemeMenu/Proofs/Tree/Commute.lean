import ThemeMenu.Proofs.Tree.Address

/-!
# ThemeMenu.Proofs.Tree.Commute

Two changes of one tree, each at an address of its own: setting an attribute, which looks at
nothing below the element, and adding a last child, which moves no address that was there before.

* `modifyAt_append_setAttribute`: the two changes commute, wherever their addresses are.
* `setAttribute_setAttribute`: of two values for one name the later one stays.
* `modifyAt_append_last`: a change at the place of a new last child is a change of that child.
-/

namespace ThemeMenu

namespace Attributes

@[simp] theorem replace_replace (name v w : String) (ps : List (String × String)) :
    replace name w (replace name v ps) = replace name w ps := by
  induction ps with
  | nil => simp [replace]
  | cons p ps ih =>
    by_cases h : p.1 = name
    · simp [replace, h]
    · simp [replace, h, ih]

@[simp] theorem put_put (a : Attributes) (name v w : String) :
    (a.put name v).put name w = a.put name w := by
  simp [put]

end Attributes

namespace Element

@[simp] theorem setAttribute_setAttribute (e : Element) (name v w : String) :
    (e.setAttribute name v).setAttribute name w = e.setAttribute name w := by
  simp [setAttribute]

@[simp] theorem attribute?_setAttribute (e : Element) (name value : String) :
    (e.setAttribute name value).attribute? name = some value := by
  simp [attribute?, setAttribute, Attributes.get?_put]

/-- The address of the attribute must be one of the tree before the child comes in: a new child
has no attribute to set yet. -/
theorem modifyAt_append_setAttribute {a : Address} {e n : Element} (ha : e.at? a = some n)
    (b : Address) (child : Element) (name value : String) :
    (e.modifyAt (·.append child) b).modifyAt (·.setAttribute name value) a
      = (e.modifyAt (·.setAttribute name value) a).modifyAt (·.append child) b := by
  induction a generalizing e b with
  | nil => cases b <;> rfl
  | cons i a ih =>
    rw [at?_cons] at ha
    obtain ⟨c, hc, hn⟩ := Option.bind_eq_some_iff.1 ha
    cases b with
    | nil =>
      -- the new child comes after position `i`
      have hi : i < e.children.length := (List.getElem?_eq_some_iff.1 hc).1
      simp only [modifyAt, append, modify_concat child hi]
    | cons j b =>
      simp only [modifyAt]
      congr 1
      by_cases hij : i = j
      · subst hij
        rw [List.modify_modify_eq, List.modify_modify_eq]
        apply modify_congr
        intro m hm
        rw [hc] at hm
        cases hm
        exact ih hn b
      · rw [List.modify_modify_ne _ _ _ hij]

/-- Setting an attribute somewhere gives no element more or fewer children. -/
theorem length_children_modifyAt_setAttribute (name value : String) (a : Address) {b : Address}
    {e n : Element} (hn : e.at? b = some n) :
    ∃ n', (e.modifyAt (·.setAttribute name value) a).at? b = some n' ∧
      n'.children.length = n.children.length := by
  induction b generalizing e a with
  | nil =>
    cases hn
    cases a with
    | nil => exact ⟨_, rfl, rfl⟩
    | cons i a => exact ⟨_, rfl, List.length_modify _ _ _⟩
  | cons j b ih =>
    cases a with
    | nil => exact ⟨n, hn, rfl⟩
    | cons i a =>
      rw [at?_cons] at hn
      obtain ⟨child, hchild, hin⟩ := Option.bind_eq_some_iff.1 hn
      simp only [modifyAt, at?_cons]
      by_cases hij : i = j
      · subst hij
        rw [List.getElem?_modify_eq, hchild]
        exact ih a hin
      · rw [List.getElem?_modify_ne _ _ hij, hchild]
        exact ⟨n, hin, rfl⟩

theorem modifyAt_append_last (f : Element → Element) {a : Address} {e n : Element}
    (ha : e.at? a = some n) (child : Element) :
    (e.modifyAt (·.append child) a).modifyAt f (a ++ [n.children.length])
      = e.modifyAt (·.append (f child)) a := by
  rw [modifyAt_append, modifyAt_modifyAt]
  apply modifyAt_congr
  intro m hm
  rw [ha] at hm
  cases hm
  simp only [append, modifyAt, modify_concat_length]

end Element
end ThemeMenu
