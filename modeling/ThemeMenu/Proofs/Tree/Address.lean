import ThemeMenu.Element.Address
import ThemeMenu.Element.Order

/-!
# ThemeMenu.Proofs.Tree.Address

Reading and rewriting at addresses. An address is a list of child positions, so every fact here is
an induction on the address, with the same fact about one position of a child list underneath.

* `at?_modifyAt`, `modifyAt_modifyAt`, `modifyAt_append`: rewriting, then reading or rewriting
  again, at one address or below it.
* `locate?_modifyAt`: a rewrite that keeps what an id finds inside the rewritten element keeps what
  it finds in the whole tree.
* `locate?_modifyAt_of_none`: an id that a rewrite brings into the tree leads into the rewritten
  element.
* `not_lex_locate?`: of several elements with an id, the first in document order is meant.
-/

namespace ThemeMenu
namespace Element

section ChildList

variable {f g : Element → Element} {i : Nat} {es : List Element}

theorem modify_congr (h : ∀ n, es[i]? = some n → f n = g n) : es.modify i f = es.modify i g := by
  apply List.ext_getElem?
  intro j
  by_cases hj : i = j
  · subst hj
    rw [List.getElem?_modify_eq, List.getElem?_modify_eq]
    cases hn : es[i]? with
    | none => rfl
    | some n => simp [h n hn]
  · rw [List.getElem?_modify_ne _ _ hj, List.getElem?_modify_ne _ _ hj]

theorem modify_concat (x : Element) (hi : i < es.length) :
    (es ++ [x]).modify i f = es.modify i f ++ [x] := by
  induction es generalizing i with
  | nil => simp at hi
  | cons e es ih =>
    cases i with
    | zero => rfl
    | succ i =>
      have hi' : i < es.length := by simpa using hi
      simp [ih hi']

theorem modify_concat_length (x : Element) (es : List Element) :
    (es ++ [x]).modify es.length f = es ++ [f x] := by
  induction es with
  | nil => rfl
  | cons e es ih => simp [ih]

end ChildList

theorem at?_cons (i : Nat) (a : Address) (e : Element) :
    e.at? (i :: a) = e.children[i]?.bind (at? a) := by
  simp only [at?]
  cases e.children[i]? <;> rfl

theorem at?_append (a b : Address) (e : Element) :
    e.at? (a ++ b) = (e.at? a).bind (at? b) := by
  induction a generalizing e with
  | nil => rfl
  | cons i a ih =>
    rw [List.cons_append, at?_cons, at?_cons]
    cases e.children[i]? with
    | none => rfl
    | some child => exact ih child

section Rewrite

variable {f g : Element → Element} {a : Address} {e : Element}

theorem at?_modifyAt (f : Element → Element) (a : Address) (e : Element) :
    (e.modifyAt f a).at? a = (e.at? a).map f := by
  induction a generalizing e with
  | nil => rfl
  | cons i a ih =>
    simp only [modifyAt, at?_cons, List.getElem?_modify_eq]
    cases e.children[i]? with
    | none => rfl
    | some child => exact ih child

theorem modifyAt_congr (h : ∀ n, e.at? a = some n → f n = g n) :
    e.modifyAt f a = e.modifyAt g a := by
  induction a generalizing e with
  | nil => exact h e rfl
  | cons i a ih =>
    have hc : e.children.modify i (modifyAt f a) = e.children.modify i (modifyAt g a) := by
      apply modify_congr
      intro child hchild
      apply ih
      intro n hn
      apply h
      rw [at?_cons, hchild]
      exact hn
    simp only [modifyAt, hc]

/-- Two rewrites of one element give the same tree only if they give the same element. -/
theorem modifyAt_eq_iff {n : Element} (hn : e.at? a = some n) :
    e.modifyAt f a = e.modifyAt g a ↔ f n = g n := by
  constructor
  · intro h
    have hat := congrArg (at? a) h
    rw [at?_modifyAt, at?_modifyAt, hn] at hat
    exact Option.some.inj hat
  · intro h
    apply modifyAt_congr
    intro m hm
    rw [hn] at hm
    cases hm
    exact h

theorem modifyAt_id (a : Address) (e : Element) : e.modifyAt (fun n => n) a = e := by
  induction a generalizing e with
  | nil => rfl
  | cons i a ih =>
    have hf : modifyAt (fun n => n) a = fun child => child := funext ih
    have hc : e.children.modify i (fun child => child) = e.children := List.modify_id i e.children
    rw [modifyAt, hf, hc]
    cases e
    rfl

theorem modifyAt_modifyAt (f g : Element → Element) (a : Address) (e : Element) :
    (e.modifyAt f a).modifyAt g a = e.modifyAt (fun n => g (f n)) a := by
  induction a generalizing e with
  | nil => rfl
  | cons i a ih =>
    simp only [modifyAt, List.modify_modify_eq]
    congr 1
    apply modify_congr
    intro child _
    exact ih child

theorem modifyAt_append (f : Element → Element) (a b : Address) (e : Element) :
    e.modifyAt f (a ++ b) = e.modifyAt (modifyAt f b) a := by
  induction a generalizing e with
  | nil => rfl
  | cons i a ih =>
    simp only [List.cons_append, modifyAt]
    congr 1
    apply modify_congr
    intro child _
    exact ih child

end Rewrite

/-! ## What a rewrite leaves alone -/

section Frame

/-- The element itself, without what is below it. -/
def alone (e : Element) : Element := { e with children := [] }

/-- A rewrite leaves every element as it is that is neither the rewritten one nor below it. -/
theorem alone_at?_modifyAt {a b : Address} (h : ¬ a <+: b) (f : Element → Element) (e : Element) :
    ((e.modifyAt f a).at? b).map alone = (e.at? b).map alone := by
  induction a generalizing b e with
  | nil => exact absurd List.nil_prefix h
  | cons i a ih =>
    cases b with
    | nil => rfl
    | cons j b =>
      simp only [modifyAt, at?_cons]
      by_cases hij : i = j
      · subst hij
        have hb : ¬ a <+: b := fun hp => h (List.cons_prefix_cons.2 ⟨rfl, hp⟩)
        rw [List.getElem?_modify_eq]
        cases e.children[i]? with
        | none => rfl
        | some child => exact ih hb child
      · rw [List.getElem?_modify_ne _ _ hij]

end Frame

/-! ## Where an id leads -/

section Locate

variable {id : String} {f g : Element → Element} {a : Address} {e n : Element}

theorem id_of_at?_locate? (ha : e.locate? id = some a) (hn : e.at? a = some n) :
    n.id = some id := by
  apply id_of_find? (e := e)
  rw [find?_eq_at?_locate?, ha]
  exact hn

theorem exists_at?_locate? (ha : e.locate? id = some a) : ∃ n, e.at? a = some n := by
  have h : (e.find? id).isSome = true := by rw [← isSome_locate?, ha]; rfl
  rw [find?_eq_at?_locate?, ha] at h
  exact Option.isSome_iff_exists.1 h

theorem locate?_eq (id : String) (e : Element) :
    e.locate? id = if e.id = some id then some []
      else (locateAmong? id e.children).map fun p => p.1 :: p.2 := by
  cases e
  simp only [locate?]
  split
  · rfl
  · cases locateAmong? id _ <;> rfl

theorem locate?_eq_nil (h : e.id = some id) : e.locate? id = some [] := by
  rw [locate?_eq, if_pos h]

theorem locate?_eq_none_iff : e.locate? id = none ↔ ∀ n ∈ e.nodes, n.id ≠ some id := by
  rw [← find?_eq_none_iff, ← Option.not_isSome_iff_eq_none, ← Option.not_isSome_iff_eq_none,
    isSome_locate?]

theorem locateAmong?_eq_none_iff {es : List Element} :
    locateAmong? id es = none ↔ ∀ e ∈ es, e.locate? id = none := by
  induction es with
  | nil => simp [locateAmong?]
  | cons e es ih =>
    rw [List.forall_mem_cons, ← ih]
    simp only [locateAmong?]
    cases e.locate? id with
    | some a => simp
    | none => cases locateAmong? id es <;> simp

theorem locateAmong?_modify {i : Nat} {es : List Element}
    (h : ∀ n, es[i]? = some n → (g n).locate? id = n.locate? id) :
    locateAmong? id (es.modify i g) = locateAmong? id es := by
  induction es generalizing i with
  | nil => simp
  | cons e es ih =>
    cases i with
    | zero => simp only [List.modify_zero_cons, locateAmong?, h e rfl]
    | succ i =>
      have ih' := ih (i := i) fun n hn => h n hn
      simp only [List.modify_succ_cons, locateAmong?, ih']

theorem locate?_modifyAt (h : ∀ n, e.at? a = some n → (f n).locate? id = n.locate? id) :
    (e.modifyAt f a).locate? id = e.locate? id := by
  induction a generalizing e with
  | nil => exact h e rfl
  | cons i a ih =>
    have hc : locateAmong? id (e.children.modify i (modifyAt f a))
        = locateAmong? id e.children := by
      apply locateAmong?_modify
      intro child hchild
      apply ih
      intro n hn
      apply h
      rw [at?_cons, hchild]
      exact hn
    rw [locate?_eq, locate?_eq]
    simp only [modifyAt, hc]

/-- A rewrite of the element an id leads to that keeps the id is found by it. -/
theorem locate?_modifyAt_self (hf : ∀ n, (f n).id = n.id) (ha : e.locate? id = some a) :
    (e.modifyAt f a).locate? id = some a := by
  rw [← ha]
  apply locate?_modifyAt
  intro n hn
  have hid : n.id = some id := id_of_at?_locate? ha hn
  rw [locate?_eq_nil hid, locate?_eq_nil ((hf n).trans hid)]

theorem locateAmong?_modify_of_none {i : Nat} {es : List Element}
    (h : locateAmong? id es = none) (hi : es[i]? = some n) :
    locateAmong? id (es.modify i g) = ((g n).locate? id).map fun a => (i, a) := by
  induction es generalizing i with
  | nil => simp at hi
  | cons e es ih =>
    rw [locateAmong?_eq_none_iff, List.forall_mem_cons, ← locateAmong?_eq_none_iff] at h
    obtain ⟨he, hes⟩ := h
    cases i with
    | zero =>
      have hn : e = n := by simpa using hi
      subst hn
      simp only [List.modify_zero_cons, locateAmong?, hes]
      cases (g e).locate? id <;> rfl
    | succ i =>
      have ih' := ih hes (i := i) (by simpa using hi)
      simp only [List.modify_succ_cons, locateAmong?, he, ih']
      cases (g n).locate? id <;> rfl

theorem locate?_modifyAt_of_none (h : e.locate? id = none) (ha : e.at? a = some n) :
    (e.modifyAt f a).locate? id = ((f n).locate? id).map (a ++ ·) := by
  induction a generalizing e with
  | nil =>
    cases ha
    simp [modifyAt]
  | cons i a ih =>
    rw [locate?_eq] at h
    split at h
    · cases h
    · rename_i hid
      have hc : locateAmong? id e.children = none := Option.map_eq_none_iff.1 h
      rw [at?_cons] at ha
      obtain ⟨child, hchild, hn⟩ := Option.bind_eq_some_iff.1 ha
      have hnone : child.locate? id = none :=
        locateAmong?_eq_none_iff.1 hc child (List.mem_of_getElem? hchild)
      have ih' := ih hnone hn
      have hc' := locateAmong?_modify_of_none (g := modifyAt f a) hc hchild
      rw [locate?_eq]
      simp only [modifyAt, hid, if_false, hc', ih', Option.map_map]
      rfl

theorem locate?_at?_of_none (h : e.locate? id = none) (ha : e.at? a = some n) :
    n.locate? id = none := by
  have hm := locate?_modifyAt_of_none (f := fun n => n) h ha
  rw [modifyAt_id, h] at hm
  exact Option.map_eq_none_iff.1 hm.symm

theorem locateAmong?_concat (child : Element) (es : List Element) :
    locateAmong? id (es ++ [child])
      = (locateAmong? id es).or ((child.locate? id).map fun a => (es.length, a)) := by
  induction es with
  | nil =>
    simp only [List.nil_append, locateAmong?]
    cases child.locate? id <;> rfl
  | cons e es ih =>
    simp only [List.cons_append, locateAmong?, ih]
    cases e.locate? id with
    | some a => rfl
    | none =>
      cases locateAmong? id es with
      | some p => rfl
      | none => cases child.locate? id <;> rfl

/-- An id is looked for in a new last child only after the rest of the element. -/
theorem locate?_append (child : Element) :
    (e.append child).locate? id
      = (e.locate? id).or ((child.locate? id).map (e.children.length :: ·)) := by
  rw [locate?_eq, locate?_eq]
  by_cases h : e.id = some id
  · simp [append, h]
  · simp only [append, h, if_false, locateAmong?_concat]
    cases locateAmong? id e.children with
    | some p => rfl
    | none => cases child.locate? id <;> rfl

theorem locate?_setAttribute (name value : String) :
    (e.setAttribute name value).locate? id = e.locate? id := by
  cases e
  rfl

end Locate

/-! ## The first of several elements -/

section First

variable {id : String} {e n : Element} {a b : Address}

theorem locateAmong?_le {es : List Element} {k j : Nat} (hk : locateAmong? id es = some (k, a))
    (hj : es[j]? = some n) (hb : n.locate? id = some b) : k ≤ j ∧ (k = j → a = b) := by
  induction es generalizing k j with
  | nil => simp at hj
  | cons e es ih =>
    simp only [locateAmong?] at hk
    cases he : e.locate? id with
    | some a' =>
      rw [he] at hk
      cases hk
      refine ⟨Nat.zero_le j, ?_⟩
      rintro rfl
      cases hj
      exact Option.some.inj (he.symm.trans hb)
    | none =>
      rw [he] at hk
      cases j with
      | zero =>
        cases hj
        rw [he] at hb
        cases hb
      | succ j =>
        cases hes : locateAmong? id es with
        | none =>
          rw [hes] at hk
          cases hk
        | some p =>
          rw [hes] at hk
          cases hk
          obtain ⟨hle, heq⟩ := ih hes hj
          exact ⟨Nat.succ_le_succ hle, fun h => heq (Nat.succ.inj h)⟩

/-- No element that carries an id comes, in document order, before the one the id leads to. -/
theorem not_lex_locate? (ha : e.locate? id = some a) (hb : e.at? b = some n)
    (hn : n.id = some id) : ¬ List.Lex (· < ·) b a := by
  intro hlex
  induction b generalizing e a with
  | nil =>
    cases hb
    rw [locate?_eq_nil hn] at ha
    cases ha
    cases hlex
  | cons j b ih =>
    rw [at?_cons] at hb
    obtain ⟨child, hchild, hat⟩ := Option.bind_eq_some_iff.1 hb
    rw [locate?_eq] at ha
    split at ha
    · cases ha
      cases hlex
    · obtain ⟨⟨k, a'⟩, hk, rfl⟩ := Option.map_eq_some_iff.1 ha
      cases hc : child.locate? id with
      | none =>
        have hnone := locate?_at?_of_none hc hat
        rw [locate?_eq_nil hn] at hnone
        cases hnone
      | some c =>
        obtain ⟨hle, heq⟩ := locateAmong?_le hk hchild hc
        cases hlex with
        | rel hlt => omega
        | cons hlex =>
          rw [heq rfl] at hlex
          exact ih hc hat hlex

end First

end Element
end ThemeMenu
