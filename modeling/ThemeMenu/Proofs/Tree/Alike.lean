import Mathlib.Data.List.Forall2
import ThemeMenu.Proofs.Tree.Choosing
import ThemeMenu.Proofs.Tree.Tidy

/-!
# ThemeMenu.Proofs.Tree.Alike

Trees that differ in the order of attributes at most. Where no name stands twice, the difference
cannot be read: every id finds elements that are alike again, and an attribute has the same value
and a select the same selected position.

Choosing an option brings elements together in this sense. A mark that is taken away and put back
goes to the end of the attributes, so elements that differ in marks alone are alike as soon as the
same option is chosen in both. They are equal unless a mark had to move.

* `Attributes.perm_put`, `Attributes.put_erase_eq_iff`: a value written again after it was erased.
* `Element.Alike`: the relation.
* `Alike.find?`, `Alike.attribute?`, `Alike.selectedIndex?`: what cannot be told apart.
* `alike_choose`: choosing in elements that differ in marks.
* `choose_choose_eq_iff`: when a choice leaves no trace after another.
-/

namespace ThemeMenu

namespace Attributes

variable {a b : Attributes} {name value : String} {ps qs : List (String × String)}

theorem has_iff_mem_names : a.has name = true ↔ name ∈ a.names := by
  obtain ⟨ps⟩ := a
  show (value? name ps).isSome = true ↔ name ∈ ps.map (·.1)
  induction ps with
  | nil => simp [value?]
  | cons p ps ih =>
    by_cases hp : p.1 = name
    · simp [value?, hp]
    · simp [value?, hp, ih, Ne.symm hp]

theorem get?_perm (h : a.pairs.Perm b.pairs) (ha : a.names.Nodup) (name : String) :
    a.get? name = b.get? name := by
  have hb : b.names.Nodup := (h.map _).nodup ha
  apply Option.ext
  intro v
  rw [get?_eq_some_iff ha, get?_eq_some_iff hb, h.mem_iff]

theorem filter_of_not_mem (h : name ∉ ps.map (·.1)) :
    ps.filter (fun p => decide (p.1 ≠ name)) = ps := by
  rw [List.filter_eq_self]
  intro p hp
  have hne : p.1 ≠ name := fun he => h (he ▸ List.mem_map_of_mem hp)
  simpa using hne

theorem replace_perm (h : (ps.map (·.1)).Nodup) (value : String) :
    (replace name value ps).Perm ((name, value) :: ps.filter fun p => decide (p.1 ≠ name)) := by
  induction ps with
  | nil => rfl
  | cons p ps ih =>
    rw [List.map_cons, List.nodup_cons] at h
    obtain ⟨hp, hps⟩ := h
    by_cases hn : p.1 = name
    · subst hn
      have hdrop : decide (p.1 ≠ p.1) = false := decide_eq_false fun hne => hne rfl
      simp only [replace, if_true, List.filter_cons, hdrop, Bool.false_eq_true, if_false,
        filter_of_not_mem hp]
      rfl
    · have hkeep : decide (p.1 ≠ name) = true := decide_eq_true hn
      simp only [replace, hn, if_false, List.filter_cons, hkeep, if_true]
      exact ((ih hps).cons p).trans (List.Perm.swap _ _ _)

/-- What else is there decides the attributes up to their order, once a value is written. -/
theorem perm_put (h : a.erase name = b.erase name) (ha : a.names.Nodup) (hb : b.names.Nodup)
    (value : String) : (a.put name value).pairs.Perm (b.put name value).pairs := by
  have hpairs := congrArg pairs h
  simp only [erase] at hpairs
  have ha' : (replace name value a.pairs).Perm _ := replace_perm ha value
  have hb' : (replace name value b.pairs).Perm _ := replace_perm hb value
  rw [hpairs] at ha'
  exact ha'.trans hb'.symm

/-- A value that stands last is overwritten where it stands. -/
theorem replace_concat (h : name ∉ ps.map (·.1)) (old value : String) :
    replace name value (ps ++ [(name, old)]) = ps ++ [(name, value)] := by
  induction ps with
  | nil => simp [replace]
  | cons p ps ih =>
    rw [List.map_cons, List.mem_cons, not_or] at h
    simp only [List.cons_append, replace, Ne.symm h.1, if_false, ih h.2]

theorem exists_concat_of_getLast? (h : (ps.map (·.1)).getLast? = some name) :
    ∃ qs old, ps = qs ++ [(name, old)] := by
  obtain ⟨p, hp, rfl⟩ := Option.map_eq_some_iff.1 (List.getLast?_map.symm.trans h)
  obtain ⟨qs, rfl⟩ := List.getLast?_eq_some_iff.1 hp
  exact ⟨qs, p.2, rfl⟩

/-- After the name is erased, its value goes to the end. If the name was there, it stands where it
stood only if that is the end too. -/
theorem put_erase_eq_iff (h : a.names.Nodup) (value : String) :
    (a.erase name).put name value = a.put name value ↔
      a.has name = false ∨ a.names.getLast? = some name := by
  have hnew : name ∉ (a.erase name).pairs.map (·.1) := by
    show name ∉ (a.erase name).names
    rw [names_erase]
    simp
  have hend : (a.erase name).put name value = ⟨(a.erase name).pairs ++ [(name, value)]⟩ :=
    put_of_not_mem hnew value
  rw [hend, ← Bool.not_eq_true, has_iff_mem_names]
  constructor
  · intro he
    by_cases hhas : name ∈ a.names
    · right
      have hnames := congrArg names he
      rw [names_put, if_pos hhas] at hnames
      rw [← hnames, names, List.map_append]
      exact List.getLast?_concat
    · exact .inl hhas
  · rintro (hno | hlast)
    · obtain ⟨ps⟩ := a
      rw [put_of_not_mem hno, erase, filter_of_not_mem hno]
    · obtain ⟨ps⟩ := a
      obtain ⟨qs, old, rfl⟩ := exists_concat_of_getLast? hlast
      have hqs : name ∉ qs.map (·.1) := by
        rw [names, List.map_append, List.nodup_append] at h
        intro hmem
        exact h.2.2 name hmem name (by simp) rfl
      rw [put, replace_concat hqs, erase, List.filter_append, filter_of_not_mem hqs]
      simp

end Attributes

namespace Element

/-- The trees differ in the order of attributes at most. -/
inductive Alike : Element → Element → Prop where
  | mk {e e' : Element} (tag : e.tag = e'.tag) (id : e.id = e'.id)
      (attributes : e.attributes.pairs.Perm e'.attributes.pairs) (text : e.text = e'.text)
      (children : List.Forall₂ Alike e.children e'.children) : Alike e e'

mutual

theorem Alike.refl : ∀ e : Element, Alike e e
  | ⟨_, _, _, _, children⟩ => .mk rfl rfl (List.Perm.refl _) rfl (Alike.refl_all children)

theorem Alike.refl_all : ∀ es : List Element, List.Forall₂ Alike es es
  | [] => .nil
  | e :: es => .cons (Alike.refl e) (Alike.refl_all es)

end

/-! ## What cannot be told apart -/

mutual

theorem Alike.find? (id : String) :
    ∀ {e e' : Element}, Alike e e' → Option.Rel Alike (e.find? id) (e'.find? id)
  | ⟨tag, i, attributes, text, children⟩, e', h => by
    have hsame := h
    obtain ⟨-, hid, -, -, hchildren⟩ := h
    rw [find?_eq, find?_eq, ← hid]
    split
    · exact .some hsame
    · exact Alike.findAmong? id hchildren

theorem Alike.findAmong? (id : String) :
    ∀ {es es' : List Element}, List.Forall₂ Alike es es' →
      Option.Rel Alike (findAmong? id es) (findAmong? id es')
  | [], _, h => by
    cases h
    exact .none
  | e :: es, _, h => by
    cases h with
    | @cons _ e' _ es' he hes =>
      have hfind := Alike.find? id he
      have hrest := Alike.findAmong? id hes
      simp only [Element.findAmong?]
      cases hl : Element.find? id e with
      | some n =>
        rw [hl] at hfind
        cases hr : Element.find? id e' with
        | some n' =>
          rw [hr] at hfind
          exact hfind
        | none =>
          rw [hr] at hfind
          cases hfind
      | none =>
        rw [hl] at hfind
        cases hr : Element.find? id e' with
        | some n' =>
          rw [hr] at hfind
          cases hfind
        | none => exact hrest

end

section Reads

variable {e e' : Element} {es es' : List Element}

theorem Alike.attribute? (h : Alike e e') (he : e.attributes.names.Nodup) (name : String) :
    e.attribute? name = e'.attribute? name := by
  obtain ⟨-, -, hattributes, -, -⟩ := h
  exact Attributes.get?_perm hattributes he name

theorem Alike.isChosen (h : Alike e e') (he : e.attributes.names.Nodup) :
    e.isChosen = e'.isChosen :=
  congrArg Option.isSome (h.attribute? he "selected")

theorem Alike.isOption (h : Alike e e') : e.isOption = e'.isOption := by
  obtain ⟨htag, -, -, -, -⟩ := h
  rw [Element.isOption, htag, Element.isOption]

theorem Alike.length_children (h : Alike e e') : e.children.length = e'.children.length := by
  obtain ⟨-, -, -, -, hchildren⟩ := h
  exact hchildren.length_eq

/-- The options have their marks in the same places. -/
theorem map_isChosen_of_alike (h : List.Forall₂ Alike es es') (ht : ∀ e ∈ es, e.Tidy) :
    (es.filter Element.isOption).map Element.isChosen
      = (es'.filter Element.isOption).map Element.isChosen := by
  induction h with
  | nil => rfl
  | @cons e e' es es' he _ ih =>
    obtain ⟨hte, htes⟩ := List.forall_mem_cons.1 ht
    simp only [List.filter_cons, ← he.isOption]
    split
    · rw [List.map_cons, List.map_cons, he.isChosen (tidy_iff.1 hte).1, ih htes]
    · exact ih htes

/-- The selected position is told by the marks alone. -/
theorem selectedIndex?_eq (e : Element) :
    e.selectedIndex? = if e.isSelect ∧ e.options.map Element.isChosen ≠ [] then
      some (((e.options.map Element.isChosen).findIdx? fun b => b).getD 0) else none := by
  rw [selectedIndex?]
  cases e.isSelect with
  | false => simp
  | true =>
    cases e.options with
    | nil => simp
    | cons o os => simp [List.findIdx?_cons, List.findIdx?_map, Function.comp_def]

theorem Alike.selectedIndex? (h : Alike e e') (ht : e.Tidy) :
    e.selectedIndex? = e'.selectedIndex? := by
  obtain ⟨htag, -, -, -, hchildren⟩ := h
  have hmarks : e.options.map Element.isChosen = e'.options.map Element.isChosen :=
    map_isChosen_of_alike hchildren (tidy_iff.1 ht).2
  rw [selectedIndex?_eq, selectedIndex?_eq, hmarks, isSelect, isSelect, htag]

end Reads

/-! ## Changes -/

section Changes

variable {e e' : Element} {es es' : List Element} {f g : Element → Element}

theorem alike_modify {i : Nat} (h : ∀ n, es[i]? = some n → Alike (f n) (g n)) :
    List.Forall₂ Alike (es.modify i f) (es.modify i g) := by
  induction es generalizing i with
  | nil =>
    rw [List.modify_nil, List.modify_nil]
    exact .nil
  | cons e es ih =>
    cases i with
    | zero => exact .cons (h e rfl) (Alike.refl_all es)
    | succ i => exact .cons (Alike.refl e) (ih fun n hn => h n hn)

theorem alike_modifyAt {a : Address} (h : ∀ n, e.at? a = some n → Alike (f n) (g n)) :
    Alike (e.modifyAt f a) (e.modifyAt g a) := by
  induction a generalizing e with
  | nil => exact h e rfl
  | cons i a ih =>
    refine .mk rfl rfl (List.Perm.refl _) rfl (alike_modify ?_)
    intro child hchild
    apply ih
    intro n hn
    apply h
    rw [at?_cons, hchild]
    exact hn

theorem alike_mark (h : e.mark false = e'.mark false) (he : e.attributes.names.Nodup)
    (he' : e'.attributes.names.Nodup) (b : Bool) : Alike (e.mark b) (e'.mark b) := by
  cases b with
  | false =>
    rw [h]
    exact Alike.refl _
  | true =>
    obtain ⟨htag, hid, hattributes, htext, hchildren⟩ := Element.mk.inj h
    refine .mk htag hid (Attributes.perm_put hattributes he he' "") htext ?_
    show List.Forall₂ Alike e.children e'.children
    have hsame : e.children = e'.children := hchildren
    rw [hsame]
    exact Alike.refl_all _

theorem alike_chooseAmong (h : chooseAmong none es = chooseAmong none es') (ht : ∀ e ∈ es, e.Tidy)
    (ht' : ∀ e ∈ es', e.Tidy) (i : Option Nat) :
    List.Forall₂ Alike (chooseAmong i es) (chooseAmong i es') := by
  induction es generalizing es' i with
  | nil =>
    cases es' with
    | nil => exact .nil
    | cons e' es' =>
      have hlength := congrArg List.length h
      simp only [length_chooseAmong, List.length_nil, List.length_cons] at hlength
      cases hlength
  | cons e es ih =>
    obtain ⟨hte, htes⟩ := List.forall_mem_cons.1 ht
    cases es' with
    | nil =>
      have hlength := congrArg List.length h
      simp only [length_chooseAmong, List.length_nil, List.length_cons] at hlength
      cases hlength
    | cons e' es' =>
      obtain ⟨hte', htes'⟩ := List.forall_mem_cons.1 ht'
      -- what has become of the first child tells whether it is an option
      have hhead := congrArg (·[0]?) h
      simp only [getElem?_chooseAmong, List.getElem?_cons_zero, Option.map_some, Option.some_inj,
        reduceCtorEq, decide_false] at hhead
      have hoption : e.isOption = e'.isOption := by
        have hsame := congrArg Element.isOption hhead
        split at hsame <;> split at hsame <;> simpa using hsame
      cases he : e.isOption with
      | true =>
        have he' : e'.isOption = true := hoption ▸ he
        simp only [he, he', if_true] at hhead
        rw [chooseAmong_cons_option he, chooseAmong_cons_option he'] at h ⊢
        have hnodup := (tidy_iff.1 hte).1
        exact .cons (alike_mark hhead hnodup (tidy_iff.1 hte').1 _)
          (ih (List.cons.inj h).2 htes htes' _)
      | false =>
        have he' : e'.isOption = false := hoption ▸ he
        rw [chooseAmong_cons_other he, chooseAmong_cons_other he'] at h ⊢
        obtain ⟨rfl, hrest⟩ := List.cons.inj h
        exact .cons (Alike.refl e) (ih hrest htes htes' i)

/-- Elements that differ in marks alone are alike once the same option is chosen. -/
theorem alike_choose (h : e.unmarked = e'.unmarked) (ht : e.Tidy) (ht' : e'.Tidy) (i : Nat) :
    Alike (e.choose i) (e'.choose i) := by
  obtain ⟨htag, hid, hattributes, htext, hchildren⟩ := Element.mk.inj h
  refine .mk htag hid ?_ htext
    (alike_chooseAmong hchildren (tidy_iff.1 ht).2 (tidy_iff.1 ht').2 (some i))
  show e.attributes.pairs.Perm e'.attributes.pairs
  rw [hattributes]

/-! ## Choices that leave no trace -/

theorem chooseAmong_chooseAmong_eq_iff (i : Option Nat) (j : Nat) (es : List Element) :
    chooseAmong (some j) (chooseAmong i es) = chooseAmong (some j) es ↔
      i = some j ∨
        ∀ o, (es.filter isOption)[j]? = some o → (o.mark false).mark true = o.mark true := by
  induction es generalizing i j with
  | nil => simp [chooseAmong]
  | cons e es ih =>
    cases he : e.isOption with
    | false =>
      have hne : ¬ e.isOption = true := by simp [he]
      rw [chooseAmong_cons_other he, chooseAmong_cons_other he, chooseAmong_cons_other he,
        List.cons_inj_right, ih, List.filter_cons_of_neg hne]
    | true =>
      have he' : (e.mark (i = some 0)).isOption = true := by simp [he]
      rw [chooseAmong_cons_option he, chooseAmong_cons_option he', chooseAmong_cons_option he,
        List.filter_cons_of_pos he]
      cases j with
      | zero =>
        -- the other options lose their marks in any case
        have hzero : onward (some 0) = none := rfl
        simp only [hzero, chooseAmong_none_chooseAmong, decide_true, List.cons.injEq, and_true,
          List.getElem?_cons_zero, Option.some_inj, forall_eq']
        by_cases hi : i = some 0
        · simp [hi]
        · simp [hi]
      | succ j =>
        have hsucc : onward (some (j + 1)) = some j := rfl
        have hne : ¬ some (j + 1) = some 0 := by simp
        simp only [hsucc, hne, decide_false, mark_false_mark, List.cons_inj_right, ih,
          onward_eq_some_iff, List.getElem?_cons_succ]

theorem mark_mark_eq_iff (h : e.attributes.names.Nodup) :
    (e.mark false).mark true = e.mark true ↔
      e.isChosen = false ∨ e.attributes.names.getLast? = some "selected" := by
  rw [isChosen, hasAttribute, ← Attributes.put_erase_eq_iff h ""]
  simp only [mark, Bool.false_eq_true, if_false, if_true, setAttribute, removeAttribute]
  constructor
  · intro he
    exact congrArg Element.attributes he
  · intro he
    rw [he]

theorem choose_choose_eq_iff {i j : Nat} {o : Element} (ho : e.options[j]? = some o)
    (ht : o.attributes.names.Nodup) :
    (e.choose i).choose j = e.choose j ↔
      i = j ∨ o.isChosen = false ∨ o.attributes.names.getLast? = some "selected" := by
  have hsteady := mark_mark_eq_iff ht
  have hamong := chooseAmong_chooseAmong_eq_iff (some i) j e.children
  have ho' : (e.children.filter isOption)[j]? = some o := ho
  simp only [ho', Option.some_inj, forall_eq', hsteady] at hamong
  rw [← hamong]
  constructor
  · intro he
    exact congrArg Element.children he
  · intro he
    simp only [choose, he]

end Changes

end Element
end ThemeMenu
