import ThemeMenu.Proofs.Page.Insertion
import ThemeMenu.Proofs.Page.Reading
import ThemeMenu.Proofs.Tree.Writing

/-!
# ThemeMenu.Proofs.Page.Writing

Writing an attribute in a document. The written value is read under its id and name and nowhere
else, and since ids are no attributes, no id leads anywhere else than before. The order of two writes
cannot be read; it can be seen in the order of the attributes only, and there only if both names are
new to one element.

* `Document.writeAt`: the document after a write.
* `Document.Updates`: all that a write does.
* `getAttribute_writeAt`, `updates_writeAt`: one write.
* `getAttribute_writeAt_writeAt`, `writeAt_comm_iff`: two writes in both orders.
* `write_is_lawful`: the laws of writing together.
-/

namespace ThemeMenu
namespace Document

def writeAt (d : Document) (a : Address) (name value : String) : Document :=
  ⟨d.body.modifyAt (·.setAttribute name value) a⟩

/-- The document `q` is `d` with the value written to one attribute of the element that the id leads
to. -/
structure Updates (d q : Document) (id name value : String) : Prop where
  read : ∀ x k, Page.getAttribute q x k
    = if x = id ∧ k = name then .ok (some value) else Page.getAttribute d x k
  /-- Tags, ids, texts and the shape of the tree are what they were. -/
  bare : q.body.bare = d.body.bare
  place : ∀ x, q.body.locate? x = d.body.locate? x
  element : ∃ a n, d.LeadsTo id a n ∧ q.LeadsTo id a (n.setAttribute name value) ∧
    ∀ b ≠ a, (q.body.at? b).map Element.alone = (d.body.at? b).map Element.alone

variable {d : Document} {id id' name name' value value' : String} {a b : Address} {n m : Element}

/-! ## One write -/

section Write

theorem setAttribute_of_leadsTo (h : d.LeadsTo id a n) (name value : String) :
    Page.setAttribute d id name value = ⟨.ok (), d.writeAt a name value, []⟩ :=
  edit_of_locate? _ h.place

theorem locate?_writeAt (d : Document) (a : Address) (name value x : String) :
    (d.writeAt a name value).body.locate? x = d.body.locate? x := by
  apply Element.locate?_modifyAt
  intro n _
  exact Element.locate?_setAttribute name value

theorem leadsTo_writeAt (h : d.LeadsTo id a n) (name value : String) :
    (d.writeAt a name value).LeadsTo id a (n.setAttribute name value) := by
  obtain ⟨ha, hn⟩ := leadsTo_iff.1 h
  rw [leadsTo_iff, locate?_writeAt, writeAt, Element.at?_modifyAt, hn]
  exact ⟨ha, rfl⟩

/-- Different ids never lead to one element: it has a single id. -/
theorem LeadsTo.ne (h : d.LeadsTo id a n) (h' : d.LeadsTo id' b m) (hid : id' ≠ id) : b ≠ a := by
  rintro rfl
  have hn : n.id = some id := Element.id_of_find? h.element
  have hm : m.id = some id' := Element.id_of_find? h'.element
  obtain ⟨-, hat⟩ := leadsTo_iff.1 h
  obtain ⟨-, hat'⟩ := leadsTo_iff.1 h'
  rw [hat] at hat'
  cases hat'
  exact hid (Option.some.inj (hm.symm.trans hn))

theorem alone_find?_writeAt (h : d.LeadsTo id a n) {x : String} (hx : x ≠ id)
    (name value : String) :
    ((d.writeAt a name value).find? x).map Element.alone = (d.find? x).map Element.alone := by
  have hsame := locate?_writeAt d a name value x
  cases hl : d.body.locate? x with
  | none => rw [find?_of_locate?_none hl, find?_of_locate?_none (hsame.trans hl)]
  | some b =>
    obtain ⟨m, hm⟩ := exists_find?_of_locate? hl
    rw [find?_of_locate? hl, find?_of_locate? (hsame.trans hl)]
    exact Element.alone_at?_modifyAt_setAttribute (h.ne ⟨hl, hm⟩ hx) name value d.body

theorem getAttribute_writeAt (h : d.LeadsTo id a n) (name value x k : String) :
    Page.getAttribute (d.writeAt a name value) x k
      = if x = id ∧ k = name then .ok (some value) else Page.getAttribute d x k :=
  Page.getAttribute_of_write (leadsTo_writeAt h name value).element h.element
    (fun _ hx => alone_find?_writeAt h hx name value) x k

theorem updates_writeAt (h : d.LeadsTo id a n) (name value : String) :
    Updates d (d.writeAt a name value) id name value where
  read := getAttribute_writeAt h name value
  bare := Element.bare_modifyAt (Element.bare_setAttribute name value) a d.body
  place := locate?_writeAt d a name value
  element := ⟨a, n, h, leadsTo_writeAt h name value, fun _ hb =>
    Element.alone_at?_modifyAt_setAttribute hb name value d.body⟩

end Write

/-! ## Two writes -/

section Comm

/-- A second write finds the element that it would have found without the first. -/
theorem exists_leadsTo_writeAt (h : d.LeadsTo id a n) (b : Address) (name value : String) :
    ∃ n', (d.writeAt b name value).LeadsTo id a n' := by
  have hplace : (d.writeAt b name value).body.locate? id = some a :=
    (locate?_writeAt ..).trans h.place
  obtain ⟨n', hn'⟩ := exists_find?_of_locate? hplace
  exact ⟨n', hplace, hn'⟩

theorem getAttribute_writeAt_writeAt (h : d.LeadsTo id a n) (h' : d.LeadsTo id' b m)
    (name value name' value' x k : String) :
    Page.getAttribute ((d.writeAt a name value).writeAt b name' value') x k
      = if x = id' ∧ k = name' then .ok (some value')
        else if x = id ∧ k = name then .ok (some value) else Page.getAttribute d x k := by
  obtain ⟨m', hm'⟩ := exists_leadsTo_writeAt h' a name value
  rw [getAttribute_writeAt hm', getAttribute_writeAt h]

theorem writeAt_comm_iff (h : d.LeadsTo id a n) (h' : d.LeadsTo id' b m)
    (hne : ¬ (id' = id ∧ name' = name)) :
    (d.writeAt a name value).writeAt b name' value'
        = (d.writeAt b name' value').writeAt a name value ↔
      ¬ (id' = id ∧ Page.getAttribute d id name = .ok none ∧
        Page.getAttribute d id name' = .ok none) := by
  simp only [writeAt, mk.injEq]
  by_cases hid : id' = id
  · subst hid
    obtain ⟨ha, hat⟩ := leadsTo_iff.1 h
    obtain rfl : a = b := Option.some.inj (ha.symm.trans h'.place)
    have hname : name ≠ name' := fun he => hne ⟨rfl, he.symm⟩
    rw [Element.modifyAt_modifyAt, Element.modifyAt_modifyAt, Element.modifyAt_eq_iff hat,
      Element.setAttribute_comm_iff hname, getAttribute_of_find? name h.element,
      getAttribute_of_find? name' h.element]
    simp only [Except.ok.injEq, true_and]
  · have hab : a ≠ b := (h.ne h' hid).symm
    simp only [Element.modifyAt_setAttribute_comm hab, hid, false_and, not_false_eq_true]

end Comm

/-- **Writing an attribute is a lawful update.** It succeeds for every id of the document, is read
again under this id and name alone, and leaves tags, ids, texts and the shape of the tree as they
are. Two writes to different attributes succeed in both orders, with the same reads; the documents
are equal too, unless both names are new to one element. -/
theorem write_is_lawful (d : Document) (id name value : String) (h : (d.find? id).isSome) :
    ∃ q, Page.setAttribute d id name value = ⟨.ok (), q, []⟩ ∧ Updates d q id name value ∧
      ∀ id' name' value', (d.find? id').isSome → ¬ (id' = id ∧ name' = name) →
        ∃ q' r r', Page.setAttribute d id' name' value' = ⟨.ok (), q', []⟩ ∧
          Page.setAttribute q id' name' value' = ⟨.ok (), r, []⟩ ∧
          Page.setAttribute q' id name value = ⟨.ok (), r', []⟩ ∧
          (∀ x k, Page.getAttribute r x k = Page.getAttribute r' x k) ∧
          (r = r' ↔ ¬ (id' = id ∧ Page.getAttribute d id name = .ok none ∧
            Page.getAttribute d id name' = .ok none)) := by
  obtain ⟨a, n, hn⟩ := exists_leadsTo h
  refine ⟨_, setAttribute_of_leadsTo hn name value, updates_writeAt hn name value, ?_⟩
  intro id' name' value' h' hne
  obtain ⟨b, m, hm⟩ := exists_leadsTo h'
  obtain ⟨m', hm'⟩ := exists_leadsTo_writeAt hm a name value
  obtain ⟨n', hn'⟩ := exists_leadsTo_writeAt hn b name' value'
  refine ⟨_, _, _, setAttribute_of_leadsTo hm name' value',
    setAttribute_of_leadsTo hm' name' value', setAttribute_of_leadsTo hn' name value, ?_,
    writeAt_comm_iff hn hm hne⟩
  intro x k
  rw [getAttribute_writeAt_writeAt hn hm, getAttribute_writeAt_writeAt hm hn]
  by_cases hx : x = id' ∧ k = name'
  · obtain ⟨rfl, rfl⟩ := hx
    rw [if_pos ⟨rfl, rfl⟩, if_neg hne, if_pos ⟨rfl, rfl⟩]
  · rw [if_neg hx, if_neg hx]

/-- Two links with one id, the first of them in the menu. An attribute called `id` makes no id, and
two names that are new to the first link stay in the order in which they were written. -/
theorem write_is_lawful_twice :
    let link : Element := { tag := "link", id := some "l", attributes := ⟨[("href", "x")]⟩ }
    let menu : Element := { tag := "div", id := some "menu", children := [link] }
    let d := Document.ofElements [menu, { link with text := some "later" }]
    ∃ q r r', Page.setAttribute d "l" "id" "top" = ⟨.ok (), q, []⟩ ∧ q.find? "top" = none ∧
      Page.getAttribute q "l" "id" = .ok (some "top") ∧
      Page.getAttribute q "l" "href" = .ok (some "x") ∧
      Page.setAttribute q "l" "rel" "y" = ⟨.ok (), r, []⟩ ∧ r ≠ r' ∧
      ∀ x k, Page.getAttribute r x k = Page.getAttribute r' x k := by
  intro link menu d
  obtain ⟨q, hq, hupdates, hcomm⟩ := write_is_lawful d "l" "id" "top" rfl
  obtain ⟨q', r, r', -, hr, -, hreads, hiff⟩ := hcomm "l" "rel" "y" rfl (by decide)
  have hnew : Page.getAttribute d "l" "id" = .ok none ∧ Page.getAttribute d "l" "rel" = .ok none :=
    ⟨rfl, rfl⟩
  refine ⟨q, r, r', hq, ?_, hupdates.read "l" "id", hupdates.read "l" "href", hr, ?_, hreads⟩
  · apply find?_of_locate?_none
    rw [hupdates.place]
    rfl
  · rw [Ne, hiff]
    exact fun hno => hno ⟨rfl, hnew⟩

end Document
end ThemeMenu
