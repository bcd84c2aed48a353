import ThemeMenu.Proofs.Chooser.Calls
import ThemeMenu.Proofs.Page.Choosing
import ThemeMenu.Proofs.Tree.Tidy

/-!
# ThemeMenu.Proofs.Chooser.Tidy

Documents that can be built, and the documents of a chooser. A chooser appends an element that can
be built and writes attributes, as anyone could who holds the document, so its documents are of
the same kind; and in none of them does an element have a name twice.

* `Document.Made`: documents built with the operations of documents.
* `Chooser.Made`: choosers on such documents, after any calls.
* `Element.Clear`: an element whose names have one value each.
* `clear_of_made`: in everything that can be built, every element is of this kind.
-/

namespace ThemeMenu

namespace Document

/-- The documents that can be built. An operation counts whether or not it succeeds: it leaves a
document either way. -/
inductive Made : Document → Prop where
  | new : Made {}
  | withElement {d : Document} {e : Element} (h : Made d) (he : e.Made) : Made ⟨d.body.append e⟩
  | append {d : Document} {e : Element} (h : Made d) (he : e.Made) (parent : String) :
      Made (Page.appendChild d parent e).after
  | write {d : Document} (h : Made d) (id name value : String) :
      Made (Page.setAttribute d id name value).after
  | choose {d : Document} (h : Made d) (id : String) (index : Nat) : Made (d.choose id index).after

variable {d : Document}

theorem tidy_after_edit {f : Element → Element} (h : d.body.Tidy)
    (hf : ∀ n : Element, n.Tidy → (f n).Tidy) (id : String) :
    (Page.edit d id f).after.body.Tidy := by
  cases ha : d.body.locate? id with
  | none =>
    rw [edit_of_locate?_none f ha]
    exact h
  | some a =>
    rw [edit_of_locate? f ha]
    exact h.modifyAt hf a

theorem tidy_after_choose (h : d.body.Tidy) (id : String) (index : Nat) :
    (d.choose id index).after.body.Tidy := by
  cases hr : (d.choose id index).result with
  | error e => rwa [after_choose_of_error hr]
  | ok i =>
    obtain ⟨a, n, -, -, -, hq⟩ := exists_leadsTo_of_choose hr
    rw [hq]
    exact h.modifyAt (fun _ hn => hn.choose _) a

theorem Made.tidy (h : d.Made) : d.body.Tidy := by
  induction h with
  | new => exact (Element.Made.new "body").tidy
  | withElement _ he ih => exact ih.append he.tidy
  | append _ he parent ih => exact tidy_after_edit ih (fun _ hn => hn.append he.tidy) parent
  | write _ id _ _ ih => exact tidy_after_edit ih (fun _ hn => hn.setAttribute _ _) id
  | choose _ id index ih => exact tidy_after_choose ih id index

end Document

namespace Chooser

/-- Choosers after any calls. Their document may be changed or exchanged at any time. -/
inductive Made : Chooser Document → Prop where
  | start {d : Document} (hd : d.Made) (c : Config) : Made (ofPage d c)
  | call {s : Chooser Document} (h : Made s) (command : Command) : Made (s.perform command).after
  | page {s : Chooser Document} {d : Document} (h : Made s) (hd : d.Made) :
      Made { s with page := d }

variable {s : Chooser Document} {c : Config} {t : Theme}

theorem made_optionFor (label : String) (chosen : Bool) : (optionFor label chosen).Made := by
  have hplain : Element.Made { tag := "option", text := some label } :=
    (Element.Made.new "option").withText label
  cases chosen with
  | true => exact hplain.setAttribute "selected" ""
  | false => exact hplain

theorem made_selectFor (c : Config) (t : Theme) : (selectFor c t).Made := by
  have hselect : Element.Made { tag := "select", id := some c.selectorId } :=
    (Element.Made.new "select").withId c.selectorId
  apply hselect.children rfl
  intro o ho
  obtain ⟨⟨u, e⟩, -, rfl⟩ := List.mem_map.1 ho
  exact made_optionFor e.label (u = t)

/-- A chooser does nothing to its document that could not be done without it. -/
theorem Made.document (h : s.Made) : s.page.Made := by
  induction h with
  | start hd c => exact hd
  | @call s _ command ih =>
    apply page_perform_preserves ih
    · intro t
      exact ih.append (made_selectFor _ t) _
    · intro id name value
      exact ih.write id name value
  | page _ hd _ => exact hd

end Chooser

/-- Each name of the element has one value. That value is read; it is gone when another is written
or the name is removed, and no older one comes to light. -/
structure Element.Clear (n : Element) : Prop where
  once : n.attributes.names.Nodup
  only : ∀ name v, n.attribute? name = some v ↔ (name, v) ∈ n.attributes.pairs
  written : ∀ name value v, (name, v) ∈ (n.setAttribute name value).attributes.pairs ↔ v = value
  removed : ∀ name v, (name, v) ∉ (n.removeAttribute name).attributes.pairs

theorem Element.Tidy.clear {e n : Element} (h : e.Tidy) (hn : n ∈ e.nodes) : n.Clear := by
  have honce : n.attributes.names.Nodup := h n hn
  refine ⟨honce, fun _ _ => Attributes.get?_eq_some_iff honce, ?_, ?_⟩
  · intro name value v
    have hput := Attributes.nodup_put honce name value
    rw [Element.setAttribute, ← Attributes.get?_eq_some_iff hput, Attributes.get?_put, if_pos rfl,
      Option.some_inj, eq_comm]
  · intro name v
    have herase := Attributes.nodup_erase honce name
    rw [Element.removeAttribute, ← Attributes.get?_eq_some_iff herase, Attributes.get?_erase,
      if_pos rfl]
    intro hv
    cases hv

/-- **Names stand once.** Whatever is built, an element, a document, or a chooser with its document,
every element in it is clear. Of elements nothing else can be said: each tree in which no element
has a name twice can be built. So a tree stays one that can be built when the element to which an
id leads is changed in any way that building knows. -/
theorem clear_of_made :
    (∀ e : Element, e.Made → ∀ n ∈ e.nodes, n.Clear) ∧
    (∀ d : Document, d.Made → ∀ n ∈ d.body.nodes, n.Clear) ∧
    (∀ s : Chooser Document, s.Made → ∀ n ∈ s.page.body.nodes, n.Clear) ∧
    (∀ e : Element, (∀ n ∈ e.nodes, n.attributes.names.Nodup) → e.Made) ∧
    ∀ (id : String) (f : Element → Element) (e e' : Element), e.Made →
      (∀ n : Element, n.Made → (f n).Made) → e.update? id f = some e' → e'.Made := by
  refine ⟨fun e he n hn => he.tidy.clear hn, fun d hd n hn => hd.tidy.clear hn, ?_,
    fun _ => Element.made_iff.2, ?_⟩
  · intro s hs n hn
    exact hs.document.tidy.clear hn
  · intro id f e e' he hf hu
    apply Element.made_iff.2
    apply he.tidy.update? _ hu
    intro n hn
    exact (hf n (Element.made_iff.2 hn)).tidy

/-- A menu with a class that was written twice, in which a select is put and then used. -/
theorem clear_of_made_menu :
    let blank : Element := { tag := "div", id := some "menu" }
    let menu := (blank.setAttribute "class" "wide").setAttribute "class" "narrow"
    let d : Document := Document.ofElements [menu]
    let s := (Chooser.ofPage d {}).afterAll [.install, .change 1]
    (menu.removeAttribute "class").attribute? "class" = none ∧
      ∀ n ∈ s.page.body.nodes, n.Clear := by
  intro blank menu d s
  obtain ⟨-, -, hchooser, -, -⟩ := clear_of_made
  have hblank : blank.Made := (Element.Made.new "div").withId "menu"
  have hmenu : menu.Made := (hblank.setAttribute "class" "wide").setAttribute "class" "narrow"
  have hd : d.Made := Document.Made.new.withElement hmenu
  have hs : s.Made := ((Chooser.Made.start hd {}).call .install).call (.change 1)
  exact ⟨rfl, hchooser s hs⟩

end ThemeMenu
