import ThemeMenu.Proofs.Tree.Address

/-!
# ThemeMenu.Proofs.Tree.Insertion

Putting a new last child into an element somewhere in a tree. In document order the child comes
right after the last descendant of the element. So an id that is carried up to there leads where it
led before, and any other id that the child brings leads into the child, even if an element further
on carries it.

* `Element.nodesThrough`: the elements up to the last descendant of the element at an address.
* `exists_nodesThrough`: they are the first part of the document order, and end with the elements
  below that address.
* `locate?_insert_of_carried`, `locate?_insert_of_free`: where an id leads after the insertion.
* `exists_nodes_insert`: the document order after the insertion.
-/

namespace ThemeMenu
namespace Element

/-- The elements, in document order, up to the last one below an address. -/
def nodesThrough : Address → Element → List Element
  | [], e => e.nodes
  | i :: a, e =>
    e :: (nodesOfAll (e.children.take i) ++
      match e.children[i]? with
      | some child => nodesThrough a child
      | none => [])

section ChildList

variable {id : String} {es before after : List Element} {i : Nat} {child : Element}

theorem nodesOfAll_append (es fs : List Element) :
    nodesOfAll (es ++ fs) = nodesOfAll es ++ nodesOfAll fs := by
  induction es with
  | nil => rfl
  | cons e es ih => simp [nodesOfAll, ih]

theorem exists_split_at_child (h : es[i]? = some child) :
    ∃ before after, es = before ++ child :: after ∧ before.length = i := by
  obtain ⟨hi, rfl⟩ := List.getElem?_eq_some_iff.1 h
  refine ⟨es.take i, es.drop (i + 1), ?_, ?_⟩
  · rw [← List.drop_eq_getElem_cons hi, List.take_append_drop]
  · simp only [List.length_take]
    omega

theorem modify_at_child (g : Element → Element) :
    (before ++ child :: after).modify before.length g = before ++ g child :: after := by
  induction before with
  | nil => rfl
  | cons e es ih => simp [ih]

theorem locateAmong?_append (es fs : List Element) :
    locateAmong? id (es ++ fs)
      = (locateAmong? id es).or
          ((locateAmong? id fs).map fun p => (es.length + p.1, p.2)) := by
  induction es with
  | nil => simp [locateAmong?]
  | cons e es ih =>
    simp only [List.cons_append, locateAmong?, ih]
    cases e.locate? id with
    | some a => rfl
    | none =>
      cases locateAmong? id es with
      | some p => rfl
      | none =>
        cases locateAmong? id fs with
        | none => rfl
        | some p => simp; omega

theorem locateAmong?_eq_none_iff_nodes :
    locateAmong? id es = none ↔ ∀ n ∈ nodesOfAll es, n.id ≠ some id := by
  induction es with
  | nil => simp [locateAmong?, nodesOfAll]
  | cons e es ih =>
    rw [locateAmong?_eq_none_iff, List.forall_mem_cons, ← locateAmong?_eq_none_iff, ih,
      locate?_eq_none_iff]
    simp only [nodesOfAll, List.mem_append]
    constructor
    · rintro ⟨he, hes⟩ n (hn | hn)
      · exact he n hn
      · exact hes n hn
    · intro h
      exact ⟨fun n hn => h n (.inl hn), fun n hn => h n (.inr hn)⟩

/-- Past children that do not carry the id, the child at a position decides, unless it does not
carry the id either. -/
theorem locateAmong?_at_child (h : locateAmong? id before = none) :
    locateAmong? id (before ++ child :: after)
      = ((child.locate? id).map fun a => (before.length, a)).or
          ((locateAmong? id after).map fun p => (before.length + (p.1 + 1), p.2)) := by
  rw [locateAmong?_append, h, Option.none_or]
  simp only [locateAmong?]
  cases child.locate? id with
  | some a => rfl
  | none => cases locateAmong? id after <;> rfl

theorem locateAmong?_lt {k : Nat} {a : Address} (h : locateAmong? id es = some (k, a)) :
    k < es.length := by
  induction es generalizing k with
  | nil => simp [locateAmong?] at h
  | cons e es ih =>
    simp only [locateAmong?] at h
    cases he : e.locate? id with
    | some b =>
      rw [he] at h
      cases h
      simp
    | none =>
      rw [he] at h
      cases hes : locateAmong? id es with
      | none =>
        rw [hes] at h
        cases h
      | some p =>
        rw [hes] at h
        cases h
        have hlt := ih hes
        simp only [List.length_cons]
        omega

/-- An id that leads through the child at a position is not carried before that child. -/
theorem locateAmong?_through_child {a : Address}
    (h : locateAmong? id (before ++ child :: after) = some (before.length, a)) :
    locateAmong? id before = none ∧ child.locate? id = some a := by
  cases hb : locateAmong? id before with
  | some p =>
    rw [locateAmong?_append, hb, Option.some_or] at h
    cases h
    have hlt := locateAmong?_lt hb
    omega
  | none =>
    rw [locateAmong?_at_child hb] at h
    cases hc : child.locate? id with
    | some b =>
      rw [hc] at h
      cases h
      exact ⟨rfl, rfl⟩
    | none =>
      rw [hc, Option.map_none, Option.none_or] at h
      obtain ⟨q, -, hq⟩ := Option.map_eq_some_iff.1 h
      have hlt := (Prod.mk.inj hq).1
      omega

end ChildList

section Through

variable {id : String} {a : Address} {e n child : Element}

theorem nodesThrough_cons {i : Nat} {before after : List Element} {c : Element}
    (hes : e.children = before ++ c :: after) (hi : before.length = i) :
    nodesThrough (i :: a) e = e :: (nodesOfAll before ++ nodesThrough a c) := by
  subst hi
  simp [nodesThrough, hes]

/-- The elements up to the last descendant of an element end with the tree below that element, and
are followed in document order by the rest. The element is the first to carry an id that leads
to it. -/
theorem exists_nodesThrough (ha : e.at? a = some n) :
    ∃ before rest, nodesThrough a e = before ++ n.nodes ∧ e.nodes = nodesThrough a e ++ rest ∧
      ∀ id, e.locate? id = some a → ∀ m ∈ before, m.id ≠ some id := by
  induction a generalizing e with
  | nil =>
    cases ha
    exact ⟨[], [], rfl, by simp [nodesThrough], fun _ _ _ hm => absurd hm List.not_mem_nil⟩
  | cons i a ih =>
    rw [at?_cons] at ha
    obtain ⟨c, hc, hn⟩ := Option.bind_eq_some_iff.1 ha
    obtain ⟨before, after, hes, rfl⟩ := exists_split_at_child hc
    obtain ⟨first, rest, hthrough, hnodes, hfirst⟩ := ih hn
    refine ⟨e :: (nodesOfAll before ++ first), rest ++ nodesOfAll after, ?_, ?_, ?_⟩
    · rw [nodesThrough_cons hes rfl, hthrough]
      simp
    · rw [nodesThrough_cons hes rfl, nodes_eq, hes, nodesOfAll_append, nodesOfAll, hnodes]
      simp
    · intro id hid
      rw [locate?_eq, hes] at hid
      split at hid
      · cases hid
      · rename_i hne
        obtain ⟨⟨k, b⟩, hk, hb⟩ := Option.map_eq_some_iff.1 hid
        cases hb
        obtain ⟨hbefore, hchild⟩ := locateAmong?_through_child hk
        intro m hm
        simp only [List.mem_cons, List.mem_append] at hm
        rcases hm with rfl | hm | hm
        · exact hne
        · exact locateAmong?_eq_none_iff_nodes.1 hbefore m hm
        · exact hfirst id hchild m hm

/-- An id that an element up to the insertion carries leads where it led before. -/
theorem locate?_insert_of_carried (ha : e.at? a = some n)
    (h : ∃ m ∈ e.nodesThrough a, m.id = some id) (child : Element) :
    (e.modifyAt (·.append child) a).locate? id = e.locate? id := by
  induction a generalizing e with
  | nil =>
    obtain ⟨m, hm, hid⟩ := h
    have hsome : e.locate? id ≠ none := fun hn => locate?_eq_none_iff.1 hn m hm hid
    obtain ⟨b, hb⟩ := Option.ne_none_iff_exists'.1 hsome
    rw [modifyAt, locate?_append, hb, Option.some_or]
  | cons i a ih =>
    rw [at?_cons] at ha
    obtain ⟨c, hc, hn⟩ := Option.bind_eq_some_iff.1 ha
    obtain ⟨before, after, hes, rfl⟩ := exists_split_at_child hc
    rw [nodesThrough_cons hes rfl] at h
    rw [locate?_eq, locate?_eq id e]
    simp only [modifyAt, hes, modify_at_child]
    by_cases hid : e.id = some id
    · simp only [hid, if_true]
    · simp only [hid, if_false]
      cases hb : locateAmong? id before with
      | some p => rw [locateAmong?_append, locateAmong?_append, hb, Option.some_or, Option.some_or]
      | none =>
        -- neither `e` nor a child before `c` carries the id, so an element at or below `c` does
        have hin : ∃ m ∈ c.nodesThrough a, m.id = some id := by
          obtain ⟨m, hm, hmid⟩ := h
          simp only [List.mem_cons, List.mem_append] at hm
          rcases hm with rfl | hm | hm
          · exact absurd hmid hid
          · exact absurd hmid (locateAmong?_eq_none_iff_nodes.1 hb m hm)
          · exact ⟨m, hm, hmid⟩
        rw [locateAmong?_at_child hb, locateAmong?_at_child hb, ih hn hin]

/-- An id that no element up to the insertion carries leads into the new child, if it is there. -/
theorem locate?_insert_of_free {b : Address} (ha : e.at? a = some n)
    (h : ∀ m ∈ e.nodesThrough a, m.id ≠ some id) (hb : child.locate? id = some b) :
    (e.modifyAt (·.append child) a).locate? id = some (a ++ n.children.length :: b) := by
  induction a generalizing e with
  | nil =>
    cases ha
    have hnone : n.locate? id = none := locate?_eq_none_iff.2 h
    rw [modifyAt, locate?_append, hnone, hb]
    rfl
  | cons i a ih =>
    rw [at?_cons] at ha
    obtain ⟨c, hc, hn⟩ := Option.bind_eq_some_iff.1 ha
    obtain ⟨before, after, hes, rfl⟩ := exists_split_at_child hc
    rw [nodesThrough_cons hes rfl, List.forall_mem_cons] at h
    obtain ⟨hid, hrest⟩ := h
    have hbefore : locateAmong? id before = none :=
      locateAmong?_eq_none_iff_nodes.2 fun m hm => hrest m (List.mem_append_left _ hm)
    have hin := ih hn fun m hm => hrest m (List.mem_append_right _ hm)
    rw [locate?_eq]
    simp only [modifyAt, hes, modify_at_child, hid, if_false]
    rw [locateAmong?_at_child hbefore, hin]
    rfl

/-- An id that the new child does not bring leads where it led before. -/
theorem locate?_insert_of_absent (h : child.locate? id = none) (a : Address) (e : Element) :
    (e.modifyAt (·.append child) a).locate? id = e.locate? id := by
  apply locate?_modifyAt
  intro m _
  rw [locate?_append, h, Option.map_none, Option.or_none]

theorem at?_insert_last (ha : e.at? a = some n) (child : Element) :
    (e.modifyAt (·.append child) a).at? (a ++ [n.children.length]) = some child := by
  rw [at?_append, at?_modifyAt, ha]
  simp [append, at?]

end Through

/-! ## The sequence of elements -/

section Sequence

variable {a : Address} {e n : Element}

/-- The new child comes in with all its elements, in their order, behind the last element below the
address; all others stay in their order. -/
theorem exists_nodes_insert (ha : e.at? a = some n) (child : Element) :
    ∃ rest, e.nodes = e.nodesThrough a ++ rest ∧
      (e.modifyAt (·.append child) a).nodes.map alone
        = (e.nodesThrough a ++ child.nodes ++ rest).map alone := by
  induction a generalizing e with
  | nil =>
    have hnodes : (e.append child).nodes
        = e.append child :: (nodesOfAll e.children ++ child.nodes) := by
      rw [nodes_eq, append, nodesOfAll_append]
      simp [nodesOfAll]
    have halone : (e.append child).alone = e.alone := rfl
    refine ⟨[], by simp [nodesThrough], ?_⟩
    simp only [modifyAt, nodesThrough, hnodes, nodes_eq e, List.map_cons, List.map_append,
      List.cons_append, List.append_nil, halone]
  | cons i a ih =>
    rw [at?_cons] at ha
    obtain ⟨c, hc, hn⟩ := Option.bind_eq_some_iff.1 ha
    obtain ⟨before, after, hes, rfl⟩ := exists_split_at_child hc
    obtain ⟨rest, hnodes, hinsert⟩ := ih hn
    have halone : ∀ es, alone { e with children := es } = e.alone := fun _ => rfl
    refine ⟨rest ++ nodesOfAll after, ?_, ?_⟩
    · rw [nodesThrough_cons hes rfl, nodes_eq, hes, nodesOfAll_append, nodesOfAll, hnodes]
      simp
    · rw [nodesThrough_cons hes rfl, nodes_eq, modifyAt, hes, modify_at_child]
      simp only [nodesOfAll_append, nodesOfAll, List.map_cons, List.map_append, hinsert, halone,
        List.cons_append, List.append_assoc]

end Sequence

end Element
end ThemeMenu
