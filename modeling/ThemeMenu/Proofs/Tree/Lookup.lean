import Mathlib.Data.List.Lex
import ThemeMenu.Proofs.Tree.Insertion

/-!
# ThemeMenu.Proofs.Tree.Lookup

Looking an id up, for reading and for changing. Both recursions go through the tree in document
order and stop at the first element that carries the id, so a change by id changes the very element
that is found, and nothing around it. Equal elements may stand at several places; which of them is
meant is told by the address.

* `Element.FirstAt`: the first element with an id, and its place.
* `Element.Replaces`: a tree with the element at one place replaced.
* `firstAt_iff`: the first element is where the id leads.
* `eq_of_alone_at?`: a tree is known by its single elements and their places.
* `replaces_iff`: replacing is rewriting at the place, and has one result.
* `lookup_meets_first`: both lookups, for all trees and ids.
-/

namespace ThemeMenu
namespace Element

/-- The place `a` holds the first element, in document order, that carries the id. -/
structure FirstAt (e : Element) (id : String) (a : Address) (n : Element) : Prop where
  element : e.at? a = some n
  carries : n.id = some id
  order : ∃ before rest, e.nodes = before ++ n.nodes ++ rest ∧ ∀ m ∈ before, m.id ≠ some id
  /-- No place before it, in the order of addresses, holds an element with the id. -/
  least : ∀ b m, e.at? b = some m → m.id = some id → ¬ List.Lex (· < ·) b a

/-- The tree `e'` is `e` with the element at `a`, and all that is below it, replaced by `n'`. -/
structure Replaces (e e' : Element) (a : Address) (n' : Element) : Prop where
  inside : ∀ b, e'.at? (a ++ b) = n'.at? b
  outside : ∀ b, ¬ a <+: b → (e'.at? b).map alone = (e.at? b).map alone

variable {e e' e'' n n' m : Element} {id : String} {a b : Address} {f : Element → Element}

/-! ## The first element -/

theorem firstAt_iff : e.FirstAt id a n ↔ e.locate? id = some a ∧ e.at? a = some n := by
  constructor
  · intro h
    refine ⟨?_, h.element⟩
    cases hl : e.locate? id with
    | none =>
      have hnone : n.locate? id = none := locate?_at?_of_none hl h.element
      rw [locate?_eq_nil h.carries] at hnone
      cases hnone
    | some b =>
      obtain ⟨m, hm⟩ := exists_at?_locate? hl
      have hleast := h.least b m hm (id_of_at?_locate? hl hm)
      have hfirst := not_lex_locate? hl h.element h.carries
      rw [Std.Trichotomous.trichotomous b a hleast hfirst]
  · rintro ⟨ha, hn⟩
    obtain ⟨before, rest, hthrough, hnodes, hbefore⟩ := exists_nodesThrough hn
    refine ⟨hn, id_of_at?_locate? ha hn, ⟨before, rest, ?_, hbefore id ha⟩, ?_⟩
    · rw [hnodes, hthrough]
    · intro b m hb hm
      exact not_lex_locate? ha hb hm

theorem find?_eq_some_iff : e.find? id = some n ↔ ∃ a, e.FirstAt id a n := by
  simp only [firstAt_iff, find?_eq_at?_locate?, Option.bind_eq_some_iff]

/-! ## Trees and places -/

mutual

theorem eq_of_alone_at? :
    ∀ e e' : Element, (∀ a, (e.at? a).map alone = (e'.at? a).map alone) → e = e'
  | ⟨tag, id, attributes, text, children⟩, ⟨tag', id', attributes', text', children'⟩, h => by
    have hroot : some (alone ⟨tag, id, attributes, text, children⟩)
        = some (alone ⟨tag', id', attributes', text', children'⟩) := h []
    simp only [alone, Option.some.injEq, mk.injEq, and_true] at hroot
    obtain ⟨rfl, rfl, rfl, rfl⟩ := hroot
    have hchildren : children = children' := by
      apply eq_of_alone_at?_all
      intro i a
      simpa only [at?_cons] using h (i :: a)
    rw [hchildren]

theorem eq_of_alone_at?_all : ∀ es es' : List Element,
    (∀ (i : Nat) (a : Address),
      (es[i]?.bind (at? a)).map alone = (es'[i]?.bind (at? a)).map alone) → es = es'
  | [], [], _ => rfl
  | [], e' :: es', h => nomatch h 0 []
  | e :: es, [], h => nomatch h 0 []
  | e :: es, e' :: es', h => by
    have he : e = e' := eq_of_alone_at? e e' (h 0)
    have hes : es = es' := eq_of_alone_at?_all es es' fun i => h (i + 1)
    rw [he, hes]

end

theorem Replaces.unique (h : e.Replaces e' a n') (h' : e.Replaces e'' a n') : e' = e'' := by
  apply eq_of_alone_at?
  intro b
  by_cases hb : a <+: b
  · obtain ⟨c, rfl⟩ := hb
    rw [h.inside, h'.inside]
  · rw [h.outside b hb, h'.outside b hb]

/-- Neither above nor below the place, whole subtrees stay as they are. -/
theorem Replaces.apart (h : e.Replaces e' a n') (hab : ¬ a <+: b) (hba : ¬ b <+: a) :
    e'.at? b = e.at? b := by
  have hbelow : ∀ c, ¬ a <+: b ++ c := by
    intro c hc
    rcases List.prefix_or_prefix_of_prefix hc (List.prefix_append b c) with hp | hp
    · exact hab hp
    · exact hba hp
  have hsame : ∀ c, ((e'.at? b).bind (at? c)).map alone = ((e.at? b).bind (at? c)).map alone := by
    intro c
    rw [← at?_append, ← at?_append]
    exact h.outside (b ++ c) (hbelow c)
  cases hm : e.at? b with
  | none =>
    have hnone := h.outside b hab
    rw [hm] at hnone
    exact Option.map_eq_none_iff.1 hnone
  | some m =>
    have hsome := h.outside b hab
    rw [hm] at hsome
    obtain ⟨m', hm', -⟩ := Option.map_eq_some_iff.1 hsome
    rw [hm, hm'] at hsame
    rw [hm', eq_of_alone_at? m' m hsame]

theorem replaces_modifyAt (ha : e.at? a = some n) : e.Replaces (e.modifyAt f a) a (f n) where
  inside b := by rw [at?_append, at?_modifyAt, ha]; rfl
  outside b hb := alone_at?_modifyAt hb f e

theorem replaces_iff (ha : e.at? a = some n) :
    e.Replaces e' a (f n) ↔ e' = e.modifyAt f a := by
  constructor
  · intro h
    exact h.unique (replaces_modifyAt ha)
  · rintro rfl
    exact replaces_modifyAt ha

/-! ## Changing the first element -/

/-- An element further on keeps its subtree even if it carries the id too: what is above the first
element comes before it, so it does not. -/
theorem FirstAt.twin (h : e.FirstAt id a n) (hr : e.Replaces e' a n') (hb : e.at? b = some m)
    (hm : m.id = some id) (hab : ¬ a <+: b) : e'.at? b = some m := by
  have hba : ¬ b <+: a := by
    rintro ⟨c, rfl⟩
    cases c with
    | nil => exact hab (by simp)
    | cons i c =>
      have hlex : List.Lex (· < ·) b (b ++ i :: c) := by
        simpa using List.Lex.append_left (· < ·) List.Lex.nil b
      exact h.least b m hb hm hlex
  rw [hr.apart hab hba, hb]

theorem FirstAt.find?_replaced (h : e.FirstAt id a n) (hr : e.Replaces e' a (f n))
    (hf : (f n).id = n.id) : e'.find? id = some (f n) := by
  obtain ⟨ha, hn⟩ := firstAt_iff.1 h
  have hplace : e'.locate? id = some a := by
    rw [(replaces_iff hn).1 hr, ← ha]
    apply locate?_modifyAt
    intro m hm
    rw [hn] at hm
    cases hm
    rw [locate?_eq_nil h.carries, locate?_eq_nil (hf.trans h.carries)]
  have hinside := hr.inside []
  rw [List.append_nil] at hinside
  rw [find?_eq_at?_locate?, hplace, Option.bind_some, hinside]
  rfl

theorem FirstAt.update?_eq_some_iff (h : e.FirstAt id a n) :
    e.update? id f = some e' ↔ e.Replaces e' a (f n) := by
  obtain ⟨ha, hn⟩ := firstAt_iff.1 h
  rw [update?_eq_modifyAt_locate?, ha, replaces_iff hn, Option.map_some, Option.some.injEq, eq_comm]

/-- **An id means the first element that carries it, to read and to change.** Looking it up finds
that element, and nothing just if no element carries the id. A change by id succeeds for the same
ids; its result is the one tree in which that element is replaced by the changed one and all others
are as they were, also those with the same id; and if the change keeps the id, the id then finds the
changed element. -/
theorem lookup_meets_first (e : Element) (id : String) :
    (∀ n, e.find? id = some n ↔ ∃ a, e.FirstAt id a n) ∧
    (e.find? id = none ↔ ∀ n ∈ e.nodes, n.id ≠ some id) ∧
    (∀ f, (e.update? id f).isSome = (e.find? id).isSome) ∧
    ∀ a n, e.FirstAt id a n → ∀ f e', (e.update? id f = some e' ↔ e.Replaces e' a (f n)) ∧
      (e.update? id f = some e' →
        (∀ b m, e.at? b = some m → m.id = some id → ¬ a <+: b → e'.at? b = some m) ∧
        ((f n).id = n.id → e'.find? id = some (f n))) := by
  refine ⟨fun _ => find?_eq_some_iff, find?_eq_none_iff, fun f => isSome_update? id f e, ?_⟩
  intro a n h f e'
  refine ⟨h.update?_eq_some_iff, ?_⟩
  intro hu
  have hr : e.Replaces e' a (f n) := h.update?_eq_some_iff.1 hu
  exact ⟨fun _ _ hb hm hab => h.twin hr hb hm hab, h.find?_replaced hr⟩

/-- Three elements with one id, of which the second is inside the first and the third beside it, an
element without an id before them, and one with the empty id behind them. -/
theorem lookup_meets_first_twins :
    let inner : Element := { tag := "b", id := some "x" }
    let first : Element := { tag := "a", id := some "x", children := [inner] }
    let later : Element := { tag := "c", id := some "x" }
    let blank : Element := { tag := "p", id := some "" }
    let e : Element :=
      { tag := "body", children := [{ tag := "div", children := [first] }, later, blank] }
    e.FirstAt "x" [0, 0] first ∧ e.find? "" = some blank ∧ e.find? "y" = none ∧
      ∃ e', e.update? "x" (·.append later) = some e' ∧ e.Replaces e' [0, 0] (first.append later) ∧
        e'.at? [1] = some later ∧ e'.find? "x" = some (first.append later) := by
  intro inner first later blank e
  obtain ⟨-, -, -, hchange⟩ := lookup_meets_first e "x"
  have hfirst : e.FirstAt "x" [0, 0] first := firstAt_iff.2 ⟨rfl, rfl⟩
  obtain ⟨hiff, hafter⟩ := hchange [0, 0] first hfirst (·.append later) _
  have hu : e.update? "x" (·.append later) = some _ := rfl
  obtain ⟨htwin, hfound⟩ := hafter hu
  exact ⟨hfirst, rfl, rfl, _, hu, hiff.1 hu, htwin [1] later rfl rfl (by decide), hfound rfl⟩

end Element
end ThemeMenu
