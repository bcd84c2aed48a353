import ThemeMenu.Proofs.Page.Place
import ThemeMenu.Proofs.Tree.Insertion

/-!
# ThemeMenu.Proofs.Page.Insertion

A new last child for an element of a document. Only the ids that the child brings can lead anywhere
else than before, and of those only the ones that no element up to the new child carries.

* `Document.LeadsTo`: the element that an id leads to, and its place.
* `Document.Front`: the document up to the last element below the one that an id leads to.
* `Document.insertAt`: the insertion.
* `leadsTo_insertAt_iff`, `locate?_insertAt_eq_iff`: when the id of the child leads to it.
-/

namespace ThemeMenu
namespace Document

structure LeadsTo (d : Document) (id : String) (a : Address) (n : Element) : Prop where
  place : d.body.locate? id = some a
  element : d.find? id = some n

structure Front (d : Document) (id : String) (a : Address) (n : Element) (front : List Element) :
    Prop where
  leads : d.LeadsTo id a n
  nodes : ∃ before rest, front = before ++ n.nodes ∧ d.body.nodes = front ++ rest ∧
    ∀ m ∈ before, m.id ≠ some id

def insertAt (d : Document) (a : Address) (child : Element) : Document :=
  ⟨d.body.modifyAt (·.append child) a⟩

variable {d : Document} {id : String} {a : Address} {n child : Element}

theorem leadsTo_iff : d.LeadsTo id a n ↔ d.body.locate? id = some a ∧ d.body.at? a = some n := by
  constructor
  · intro h
    exact ⟨h.place, by rw [← find?_of_locate? h.place, h.element]⟩
  · rintro ⟨ha, hn⟩
    exact ⟨ha, by rw [find?_of_locate? ha, hn]⟩

theorem exists_leadsTo (h : (d.find? id).isSome) : ∃ a n, d.LeadsTo id a n := by
  obtain ⟨a, ha⟩ := exists_locate? h
  obtain ⟨n, hn⟩ := exists_find?_of_locate? ha
  exact ⟨a, n, ha, hn⟩

theorem exists_leadsTo_of_carried (h : ∃ m ∈ d.body.nodes, m.id = some id) :
    ∃ a n, d.LeadsTo id a n := by
  obtain ⟨m, hm, hid⟩ := h
  apply exists_leadsTo
  rw [Option.isSome_iff_ne_none]
  intro hnone
  exact Element.find?_eq_none_iff.1 hnone m hm hid

theorem front_nodesThrough (h : d.LeadsTo id a n) : d.Front id a n (d.body.nodesThrough a) := by
  obtain ⟨ha, hn⟩ := leadsTo_iff.1 h
  obtain ⟨before, rest, hfront, hnodes, hfirst⟩ := Element.exists_nodesThrough hn
  exact ⟨h, before, rest, hfront, hnodes, hfirst id ha⟩

theorem mem_nodesThrough (hn : d.body.at? a = some n) : n ∈ d.body.nodesThrough a := by
  obtain ⟨before, rest, hfront, -⟩ := Element.exists_nodesThrough hn
  rw [hfront, Element.nodes_eq]
  simp

theorem mem_nodes_of_mem_nodesThrough (hn : d.body.at? a = some n) {m : Element}
    (hm : m ∈ d.body.nodesThrough a) : m ∈ d.body.nodes := by
  obtain ⟨before, rest, -, hnodes, -⟩ := Element.exists_nodesThrough hn
  rw [hnodes]
  exact List.mem_append_left rest hm

section Insert

theorem at?_insertAt_last (hn : d.body.at? a = some n) :
    (d.insertAt a child).body.at? (a ++ [n.children.length]) = some child :=
  Element.at?_insert_last hn child

theorem locate?_insertAt_of_absent (h : child.locate? id = none) (a : Address) :
    (d.insertAt a child).body.locate? id = d.body.locate? id :=
  Element.locate?_insert_of_absent h a d.body

theorem locate?_insertAt_of_carried (hn : d.body.at? a = some n)
    (h : ∃ m ∈ d.body.nodesThrough a, m.id = some id) (child : Element) :
    (d.insertAt a child).body.locate? id = d.body.locate? id :=
  Element.locate?_insert_of_carried hn h child

theorem locate?_insertAt_of_free (hn : d.body.at? a = some n) (hc : child.locate? id = some [])
    (h : ∀ m ∈ d.body.nodesThrough a, m.id ≠ some id) :
    (d.insertAt a child).body.locate? id = some (a ++ [n.children.length]) :=
  Element.locate?_insert_of_free hn h hc

/-- Nothing was at the place of the child before, so no id led there. -/
theorem locate?_ne_insertAt_last (hn : d.body.at? a = some n) :
    d.body.locate? id ≠ some (a ++ [n.children.length]) := by
  intro h
  obtain ⟨m, hm⟩ := Element.exists_at?_locate? h
  rw [Element.at?_append, hn] at hm
  simp [Element.at?] at hm

/-- The id of the child leads to it exactly when no element up to it carries that id. -/
theorem leadsTo_insertAt_iff (hn : d.body.at? a = some n) (hc : child.locate? id = some []) :
    (d.insertAt a child).LeadsTo id (a ++ [n.children.length]) child ↔
      ∀ m ∈ d.body.nodesThrough a, m.id ≠ some id := by
  rw [leadsTo_iff]
  constructor
  · rintro ⟨h, -⟩ m hm hid
    rw [locate?_insertAt_of_carried hn ⟨m, hm, hid⟩ child] at h
    exact locate?_ne_insertAt_last hn h
  · intro h
    exact ⟨locate?_insertAt_of_free hn hc h, at?_insertAt_last hn⟩

theorem locate?_insertAt_eq_iff (hn : d.body.at? a = some n) (hc : child.locate? id = some []) :
    (d.insertAt a child).body.locate? id = d.body.locate? id ↔
      ∃ m ∈ d.body.nodesThrough a, m.id = some id := by
  constructor
  · intro hsame
    apply Classical.byContradiction
    intro hno
    have hfree : ∀ m ∈ d.body.nodesThrough a, m.id ≠ some id :=
      fun m hm hid => hno ⟨m, hm, hid⟩
    rw [locate?_insertAt_of_free hn hc hfree] at hsame
    exact locate?_ne_insertAt_last hn hsame.symm
  · intro h
    exact locate?_insertAt_of_carried hn h child

/-- An id that is carried up to the child leads to the same place as before. -/
theorem leadsTo_insertAt_of_carried (hn : d.body.at? a = some n)
    (h : ∃ m ∈ d.body.nodesThrough a, m.id = some id) :
    ∃ b x x', d.LeadsTo id b x ∧ (d.insertAt a child).LeadsTo id b x' := by
  have hsame := locate?_insertAt_of_carried hn h child
  obtain ⟨m, hm, hid⟩ := h
  obtain ⟨b, x, hx⟩ :=
    exists_leadsTo_of_carried ⟨m, mem_nodes_of_mem_nodesThrough hn hm, hid⟩
  have hb := hsame.trans hx.place
  obtain ⟨x', hx'⟩ := exists_find?_of_locate? hb
  exact ⟨b, x, x', hx, hb, hx'⟩

/-- The element itself keeps its id, even from a child with the same one. -/
theorem childrenAt_insertAt (h : d.LeadsTo id a n) :
    (d.insertAt a child).childrenAt id = .ok (n.children ++ [child]) := by
  obtain ⟨ha, hn⟩ := leadsTo_iff.1 h
  have hid := Element.id_of_at?_locate? ha hn
  have ha' : (d.insertAt a child).body.locate? id = some a :=
    (locate?_insertAt_of_carried hn ⟨n, mem_nodesThrough hn, hid⟩ child).trans ha
  have hn' : (d.insertAt a child).find? id = some (n.append child) := by
    rw [find?_of_locate? ha', insertAt, Element.at?_modifyAt, hn]
    rfl
  rw [childrenAt, hn']
  rfl

end Insert

end Document
end ThemeMenu
