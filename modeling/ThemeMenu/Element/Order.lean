import ThemeMenu.Element.Lookup

/-!
# ThemeMenu.Element.Order

Document order: an element, then the elements below each of its children in turn.

* `Element.nodes`: all elements of a tree in document order.
* `find?_eq_find?_nodes`: looking an id up finds the first element in document order that carries
  it.
* `find?_eq_none_iff`: nothing is found exactly when no element carries the id.
-/

namespace ThemeMenu
namespace Element

mutual

def nodes : Element → List Element
  | e@⟨_, _, _, _, children⟩ => e :: nodesOfAll children

def nodesOfAll : List Element → List Element
  | [] => []
  | e :: es => nodes e ++ nodesOfAll es

end

theorem nodes_eq (e : Element) : e.nodes = e :: nodesOfAll e.children := by
  cases e; simp only [nodes]

/-- Whether an element carries an id. -/
def carries (id : String) (e : Element) : Bool := e.id == some id

mutual

theorem find?_eq_find?_nodes (id : String) :
    ∀ e : Element, e.find? id = e.nodes.find? (carries id)
  | ⟨tag, i, attributes, text, children⟩ => by
    have ih := findAmong?_eq_find?_nodes id children
    by_cases h : i = some id <;> simp [find?, nodes, carries, h, ih]

theorem findAmong?_eq_find?_nodes (id : String) :
    ∀ es : List Element, findAmong? id es = (nodesOfAll es).find? (carries id)
  | [] => rfl
  | e :: es => by
    have h := find?_eq_find?_nodes id e
    have ih := findAmong?_eq_find?_nodes id es
    simp only [findAmong?, nodesOfAll, List.find?_append, ← h, ← ih]
    cases find? id e <;> rfl

end

theorem find?_eq_none_iff {id : String} {e : Element} :
    e.find? id = none ↔ ∀ n ∈ e.nodes, n.id ≠ some id := by
  simp [find?_eq_find?_nodes, carries]

theorem id_of_find? {id : String} {e n : Element} (h : e.find? id = some n) : n.id = some id := by
  rw [find?_eq_find?_nodes] at h
  simpa [carries] using List.find?_some h

end Element
end ThemeMenu
