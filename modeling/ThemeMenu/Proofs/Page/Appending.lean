import ThemeMenu.Proofs.Page.Insertion
import ThemeMenu.Proofs.Page.Reading

/-!
# ThemeMenu.Proofs.Page.Appending

Appending an element to the children of another one, in a document. The sequence of elements in
document order takes the new ones in at one place, and loses, doubles or moves none. What an id finds
is the first element of that sequence that carries it, so the sequence alone tells which reads the
new elements take over.

* `Document.Appends`: all that an append does, with the elements up to the new ones and after them.
* `alone_find?_of_order`: what an id finds, told by the sequence.
* `appends_of_order`, `appends_insertAt`: the sequence after an append, and all that follows from it.
* `append_loses_nothing`: every append to an element of the document is such a change.
-/

namespace ThemeMenu
namespace Document

open Element (alone carries)

/-- The document `q` is `d` with a new last child for the element that the id leads to; in document
order, the new elements come between `front` and `rest`. -/
structure Appends (d q : Document) (parent : String) (child : Element) (front rest : List Element) :
    Prop where
  split : d.body.nodes = front ++ rest
  order : q.body.nodes.map alone = (front ++ child.nodes ++ rest).map alone
  /-- An id that the new elements do not carry reads as before, ... -/
  absent : ∀ x, (∀ m ∈ child.nodes, m.id ≠ some x) →
    ∀ k, Page.getAttribute q x k = Page.getAttribute d x k
  /-- ... and so does one that an element before them carries. -/
  carried : ∀ x, (∃ m ∈ front, m.id = some x) →
    ∀ k, Page.getAttribute q x k = Page.getAttribute d x k
  /-- Any other id of theirs is read from the new elements. -/
  taken : ∀ x, (∃ m ∈ child.nodes, m.id = some x) → (∀ m ∈ front, m.id ≠ some x) →
    ∃ m, child.find? x = some m ∧ ∀ k, Page.getAttribute q x k = .ok (m.attribute? k)

variable {d : Document} {parent x : String} {a : Address} {n child : Element}
  {front rest : List Element}

theorem find?_carries_eq_none_iff {es : List Element} :
    es.find? (carries x) = none ↔ ∀ m ∈ es, m.id ≠ some x := by
  simp [carries]

/-- Past the elements before the new ones, the id is looked for among these, and only then behind. -/
theorem alone_find?_of_order {q : Document}
    (h : q.body.nodes.map alone = (front ++ child.nodes ++ rest).map alone) (x : String) :
    (q.find? x).map alone
      = (((front.find? (carries x)).or (child.find? x)).or (rest.find? (carries x))).map alone := by
  have hcarries : carries x ∘ alone = carries x := rfl
  calc (q.find? x).map alone
    _ = (q.body.nodes.map alone).find? (carries x) := by
      rw [List.find?_map, hcarries, find?, Element.find?_eq_find?_nodes]
    _ = ((front ++ child.nodes ++ rest).find? (carries x)).map alone := by
      rw [h, List.find?_map, hcarries]
    _ = _ := by rw [List.find?_append, List.find?_append, Element.find?_eq_find?_nodes]

theorem appends_of_order {q : Document} (hd : d.body.nodes = front ++ rest)
    (h : q.body.nodes.map alone = (front ++ child.nodes ++ rest).map alone) :
    Appends d q parent child front rest := by
  have hfind : ∀ x, d.find? x = (front.find? (carries x)).or (rest.find? (carries x)) := by
    intro x
    rw [find?, Element.find?_eq_find?_nodes, hd, List.find?_append]
  constructor
  case split => exact hd
  case order => exact h
  case absent =>
    intro x hx
    have hnone : child.find? x = none := Element.find?_eq_none_iff.2 hx
    apply Page.getAttribute_congr
    show (q.find? x).map alone = (d.find? x).map alone
    rw [alone_find?_of_order h, hnone, hfind, Option.or_none]
  case carried =>
    rintro x ⟨m, hm, hid⟩
    have hsome : front.find? (carries x) ≠ none := fun hnone =>
      find?_carries_eq_none_iff.1 hnone m hm hid
    obtain ⟨m', hm'⟩ := Option.ne_none_iff_exists'.1 hsome
    apply Page.getAttribute_congr
    show (q.find? x).map alone = (d.find? x).map alone
    rw [alone_find?_of_order h, hfind, hm', Option.some_or, Option.some_or]
  case taken =>
    rintro x ⟨m, hm, hid⟩ hfront
    have hsome : child.find? x ≠ none := fun hnone => Element.find?_eq_none_iff.1 hnone m hm hid
    obtain ⟨m', hm'⟩ := Option.ne_none_iff_exists'.1 hsome
    have hq := alone_find?_of_order h x
    rw [find?_carries_eq_none_iff.2 hfront, hm', Option.none_or, Option.some_or] at hq
    exact ⟨m', hm', Page.getAttribute_of_alone hq⟩

theorem appends_insertAt (h : d.LeadsTo parent a n) (child : Element) :
    ∃ rest, Appends d (d.insertAt a child) parent child (d.body.nodesThrough a) rest := by
  obtain ⟨rest, hnodes, hinsert⟩ := Element.exists_nodes_insert (leadsTo_iff.1 h).2 child
  exact ⟨rest, appends_of_order hnodes hinsert⟩

/-- **An append loses nothing and takes over only the ids it brings.** It succeeds for every id of
the document and puts the element behind the old children, whatever ids it carries. The new elements
come in right after the last one below the parent, and only an id of theirs that nothing up to there
carries reads differently from before. -/
theorem append_loses_nothing (d : Document) (parent : String) (child : Element)
    (h : (d.find? parent).isSome) :
    ∃ q a n, Page.appendChild d parent child = ⟨.ok (), q, []⟩ ∧
      d.childrenAt parent = .ok n.children ∧ q.childrenAt parent = .ok (n.children ++ [child]) ∧
      d.Front parent a n (d.body.nodesThrough a) ∧
      ∃ rest, Appends d q parent child (d.body.nodesThrough a) rest := by
  obtain ⟨a, n, hn⟩ := exists_leadsTo h
  have hold : d.childrenAt parent = .ok n.children := by rw [childrenAt, hn.element]
  exact ⟨d.insertAt a child, a, n, edit_of_locate? _ hn.place, hold, childrenAt_insertAt hn,
    front_nodesThrough hn, appends_insertAt hn child⟩

/-- A menu with a badge, a link behind it, and a new child that carries all three ids and one more.
-/
theorem append_loses_nothing_shared :
    let named (tag id : String) (children : List Element) : Element :=
      { tag := tag, id := some id, attributes := ⟨[("class", tag)]⟩, children := children }
    let d := Document.ofElements
      [named "div" "menu" [named "span" "badge" []], named "link" "css" []]
    let child := named "nav" "menu" [named "b" "badge" [], named "i" "css" [], named "u" "new" []]
    ∃ q, Page.appendChild d "menu" child = ⟨.ok (), q, []⟩ ∧
      q.childrenAt "menu" = .ok [named "span" "badge" [], child] ∧
      Page.getAttribute q "menu" "class" = .ok (some "div") ∧
      Page.getAttribute q "badge" "class" = .ok (some "span") ∧
      Page.getAttribute q "css" "class" = .ok (some "i") ∧
      Page.getAttribute q "new" "class" = .ok (some "u") := by
  intro named d child
  obtain ⟨q, a, n, hq, -, hchildren, hfront, rest, happends⟩ :=
    append_loses_nothing d "menu" child rfl
  have ha : [0] = a := Option.some.inj hfront.leads.place
  have hn : named "div" "menu" [named "span" "badge" []] = n :=
    Option.some.inj hfront.leads.element
  subst ha hn
  refine ⟨q, hq, hchildren, ?_, ?_, ?_, ?_⟩
  · exact happends.carried "menu" (by decide) "class"
  · exact happends.carried "badge" (by decide) "class"
  · obtain ⟨m, hm, hread⟩ := happends.taken "css" (by decide) (by decide)
    cases hm
    exact hread "class"
  · obtain ⟨m, hm, hread⟩ := happends.taken "new" (by decide) (by decide)
    cases hm
    exact hread "class"

end Document
end ThemeMenu
