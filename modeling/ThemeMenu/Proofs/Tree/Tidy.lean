import Mathlib.Data.List.Induction
import ThemeMenu.Element.Select
import ThemeMenu.Proofs.Tree.Address

/-!
# ThemeMenu.Proofs.Tree.Tidy

Attribute names that stand once. Reading a name answers its first value, so a second one would come
to light when the first is removed. No element that is built with the operations of elements has
one: writing a name replaces the value it has, and a new name goes to the end.

* `Attributes.names_put`, `Attributes.names_erase`: the names after writing and erasing.
* `Element.Tidy`: every element of a tree has each of its names once.
* `Tidy.modifyAt`, `Tidy.choose`: changes of a part of a tree.
* `Element.Made`, `Element.made_iff`: the elements that can be built are the tidy ones.
-/

namespace ThemeMenu

namespace Attributes

variable {a : Attributes} {name value v : String} {ps : List (String × String)}

theorem names_replace (name value : String) (ps : List (String × String)) :
    (replace name value ps).map (·.1)
      = if name ∈ ps.map (·.1) then ps.map (·.1) else ps.map (·.1) ++ [name] := by
  induction ps with
  | nil => simp [replace]
  | cons p ps ih =>
    by_cases hp : p.1 = name
    · simp [replace, hp]
    · have hne : name ≠ p.1 := Ne.symm hp
      simp only [replace, hp, if_false, List.map_cons, ih, List.mem_cons, hne, false_or]
      split <;> rfl

theorem names_put (a : Attributes) (name value : String) :
    (a.put name value).names = if name ∈ a.names then a.names else a.names ++ [name] :=
  names_replace name value a.pairs

theorem names_erase (a : Attributes) (name : String) :
    (a.erase name).names = a.names.filter fun n => decide (n ≠ name) := by
  rw [names, names, erase, List.filter_map]
  rfl

theorem nodup_put (h : a.names.Nodup) (name value : String) : (a.put name value).names.Nodup := by
  rw [names_put]
  split
  · exact h
  · rename_i hnew
    rw [List.nodup_append]
    refine ⟨h, List.nodup_cons.2 ⟨List.not_mem_nil, List.nodup_nil⟩, ?_⟩
    intro n hn m hm
    rw [List.mem_singleton.1 hm]
    rintro rfl
    exact hnew hn

theorem nodup_erase (h : a.names.Nodup) (name : String) : (a.erase name).names.Nodup := by
  rw [names_erase]
  exact h.sublist List.filter_sublist

theorem value?_eq_some_iff (h : (ps.map (·.1)).Nodup) :
    value? name ps = some v ↔ (name, v) ∈ ps := by
  induction ps with
  | nil => simp [value?]
  | cons p ps ih =>
    rw [List.map_cons, List.nodup_cons] at h
    obtain ⟨hp, hps⟩ := h
    by_cases hn : p.1 = name
    · subst hn
      have hno : (p.1, v) ∉ ps := fun hmem => hp (List.mem_map.2 ⟨_, hmem, rfl⟩)
      simp [value?, hno, Prod.ext_iff, eq_comm]
    · have hne : (name, v) ≠ p := fun he => hn (congrArg Prod.fst he.symm)
      simp [value?, hn, hne, ih hps]

/-- Where no name stands twice, reading a name finds the only value that it has. -/
theorem get?_eq_some_iff (h : a.names.Nodup) : a.get? name = some v ↔ (name, v) ∈ a.pairs :=
  value?_eq_some_iff h

/-- A new name goes to the end. -/
theorem put_of_not_mem (h : name ∉ ps.map (·.1)) (value : String) :
    put ⟨ps⟩ name value = ⟨ps ++ [(name, value)]⟩ := by
  rw [put]
  congr 1
  induction ps with
  | nil => rfl
  | cons p ps ih =>
    rw [List.map_cons, List.mem_cons, not_or] at h
    simp only [replace, Ne.symm h.1, if_false, ih h.2, List.cons_append]

end Attributes

namespace Element

variable {e e' n child : Element} {id : String} {f : Element → Element}

/-- No element of the tree has a name twice. -/
def Tidy (e : Element) : Prop := ∀ n ∈ e.nodes, n.attributes.names.Nodup

theorem mem_nodesOfAll_iff {es : List Element} : n ∈ nodesOfAll es ↔ ∃ e ∈ es, n ∈ e.nodes := by
  induction es with
  | nil => simp [nodesOfAll]
  | cons e es ih => simp [nodesOfAll, ih]

theorem tidy_iff : e.Tidy ↔ e.attributes.names.Nodup ∧ ∀ child ∈ e.children, child.Tidy := by
  unfold Tidy
  rw [nodes_eq, List.forall_mem_cons]
  constructor
  · rintro ⟨he, hall⟩
    exact ⟨he, fun child hc n hn => hall n (mem_nodesOfAll_iff.2 ⟨child, hc, hn⟩)⟩
  · rintro ⟨he, hall⟩
    refine ⟨he, fun n hn => ?_⟩
    obtain ⟨child, hc, hn⟩ := mem_nodesOfAll_iff.1 hn
    exact hall child hc n hn

namespace Tidy

/-- The parts of a tidy tree are tidy. -/
theorem at? {a : Address} (h : e.Tidy) (hn : e.at? a = some n) : n.Tidy := by
  induction a generalizing e with
  | nil =>
    cases hn
    exact h
  | cons i a ih =>
    rw [at?_cons] at hn
    obtain ⟨child, hchild, hn⟩ := Option.bind_eq_some_iff.1 hn
    exact ih ((tidy_iff.1 h).2 child (List.mem_of_getElem? hchild)) hn

/-! ## Changes -/

theorem setAttribute (h : e.Tidy) (name value : String) : (e.setAttribute name value).Tidy := by
  obtain ⟨he, hchildren⟩ := tidy_iff.1 h
  exact tidy_iff.2 ⟨Attributes.nodup_put he name value, hchildren⟩

theorem removeAttribute (h : e.Tidy) (name : String) : (e.removeAttribute name).Tidy := by
  obtain ⟨he, hchildren⟩ := tidy_iff.1 h
  exact tidy_iff.2 ⟨Attributes.nodup_erase he name, hchildren⟩

theorem append (h : e.Tidy) (hc : child.Tidy) : (e.append child).Tidy := by
  obtain ⟨he, hchildren⟩ := tidy_iff.1 h
  refine tidy_iff.2 ⟨he, ?_⟩
  intro m hm
  rcases List.mem_append.1 hm with hm | hm
  · exact hchildren m hm
  · rw [List.mem_singleton.1 hm]
    exact hc

/-- Rewriting a part of a tree leaves it tidy if it leaves the part tidy. -/
theorem modifyAt (h : e.Tidy) (hf : ∀ n, n.Tidy → (f n).Tidy) (a : Address) :
    (e.modifyAt f a).Tidy := by
  induction a generalizing e with
  | nil => exact hf e h
  | cons i a ih =>
    obtain ⟨he, hchildren⟩ := tidy_iff.1 h
    refine tidy_iff.2 ⟨he, ?_⟩
    intro m hm
    obtain ⟨j, hj⟩ := List.mem_iff_getElem?.1 hm
    rw [Element.modifyAt, List.getElem?_modify] at hj
    obtain ⟨child, hchild, rfl⟩ := Option.map_eq_some_iff.1 hj
    have hc : child.Tidy := hchildren child (List.mem_of_getElem? hchild)
    split
    · exact ih hc
    · exact hc

theorem update? (h : e.Tidy) (hf : ∀ n, n.Tidy → (f n).Tidy) (hu : e.update? id f = some e') :
    e'.Tidy := by
  rw [update?_eq_modifyAt_locate?] at hu
  obtain ⟨a, -, rfl⟩ := Option.map_eq_some_iff.1 hu
  exact h.modifyAt hf a

theorem mark (h : e.Tidy) (chosen : Bool) : (e.mark chosen).Tidy := by
  cases chosen with
  | true => exact h.setAttribute "selected" ""
  | false => exact h.removeAttribute "selected"

theorem chooseAmong {es : List Element} (h : ∀ e ∈ es, e.Tidy) (i : Option Nat) :
    ∀ e ∈ chooseAmong i es, e.Tidy := by
  induction es generalizing i with
  | nil => simp [Element.chooseAmong]
  | cons e es ih =>
    obtain ⟨he, hes⟩ := List.forall_mem_cons.1 h
    unfold Element.chooseAmong
    split
    · split
      · exact List.forall_mem_cons.2 ⟨he.mark true, ih hes none⟩
      · exact List.forall_mem_cons.2 ⟨he.mark false, ih hes _⟩
      · exact List.forall_mem_cons.2 ⟨he.mark false, ih hes none⟩
    · exact List.forall_mem_cons.2 ⟨he, ih hes i⟩

theorem choose (h : e.Tidy) (i : Nat) : (e.choose i).Tidy := by
  obtain ⟨he, hchildren⟩ := tidy_iff.1 h
  exact tidy_iff.2 ⟨he, chooseAmong hchildren (some i)⟩

end Tidy

/-! ## Building -/

/-- The elements that can be built. `part` takes a child out of an element that was built before,
and `replace` puts another element in the place to which an id leads. -/
inductive Made : Element → Prop where
  | new (tag : String) : Made { tag := tag }
  | withId {e : Element} (h : Made e) (id : String) : Made { e with id := some id }
  | withText {e : Element} (h : Made e) (text : String) : Made { e with text := some text }
  | setAttribute {e : Element} (h : Made e) (name value : String) : Made (e.setAttribute name value)
  | removeAttribute {e : Element} (h : Made e) (name : String) : Made (e.removeAttribute name)
  | append {e child : Element} (h : Made e) (hc : Made child) : Made (e.append child)
  | part {e child : Element} (h : Made e) (hc : child ∈ e.children) : Made child
  | replace {e n e' : Element} {id : String} (h : Made e) (hn : Made n)
      (hu : e.update? id (fun _ => n) = some e') : Made e'

theorem Made.tidy (h : e.Made) : e.Tidy := by
  induction h with
  | new tag => exact tidy_iff.2 ⟨List.nodup_nil, nofun⟩
  | withId _ id ih =>
    obtain ⟨he, hchildren⟩ := tidy_iff.1 ih
    exact tidy_iff.2 ⟨he, hchildren⟩
  | withText _ text ih =>
    obtain ⟨he, hchildren⟩ := tidy_iff.1 ih
    exact tidy_iff.2 ⟨he, hchildren⟩
  | setAttribute _ name value ih => exact ih.setAttribute name value
  | removeAttribute _ name ih => exact ih.removeAttribute name
  | append _ _ ih ihc => exact ih.append ihc
  | part _ hc ih => exact (tidy_iff.1 ih).2 _ hc
  | replace _ _ hu ih ihn => exact ih.update? (fun _ _ => ihn) hu

theorem Made.attributes {ps : List (String × String)} (h : e.Made) (he : e.attributes = {})
    (hps : (ps.map (·.1)).Nodup) : Made { e with attributes := ⟨ps⟩ } := by
  induction ps using List.reverseRecOn with
  | nil =>
    cases e
    cases he
    exact h
  | append_singleton ps p ih =>
    rw [List.map_append, List.nodup_append] at hps
    obtain ⟨hnodup, -, hdisjoint⟩ := hps
    have hnew : p.1 ∉ ps.map (·.1) := fun hmem => hdisjoint _ hmem _ (by simp) rfl
    have hset := (ih hnodup).setAttribute p.1 p.2
    rw [Element.setAttribute, Attributes.put_of_not_mem hnew] at hset
    exact hset

theorem Made.children {es : List Element} (h : e.Made) (he : e.children = [])
    (hes : ∀ child ∈ es, child.Made) : Made { e with children := es } := by
  induction es using List.reverseRecOn with
  | nil =>
    cases e
    cases he
    exact h
  | append_singleton es child ih =>
    have hrest := ih fun c hc => hes c (List.mem_append_left _ hc)
    exact hrest.append (hes child (by simp))

mutual

/-- Tag, id and text come first, then the attributes and the children in their order. -/
theorem Tidy.made : ∀ e : Element, e.Tidy → e.Made
  | ⟨tag, id, attributes, text, children⟩, h => by
    obtain ⟨hnodup, hchildren⟩ := tidy_iff.1 h
    have hid : Made { tag := tag, id := id } := by
      cases id with
      | none => exact .new tag
      | some id => exact (Made.new tag).withId id
    have htext : Made { tag := tag, id := id, text := text } := by
      cases text with
      | none => exact hid
      | some text => exact hid.withText text
    exact (htext.attributes rfl hnodup).children rfl (Tidy.made_all children hchildren)

theorem Tidy.made_all : ∀ es : List Element, (∀ e ∈ es, e.Tidy) → ∀ e ∈ es, e.Made
  | [], _ => nofun
  | e :: es, h => by
    obtain ⟨he, hes⟩ := List.forall_mem_cons.1 h
    exact List.forall_mem_cons.2 ⟨Tidy.made e he, Tidy.made_all es hes⟩

end

theorem made_iff : e.Made ↔ e.Tidy := ⟨Made.tidy, Tidy.made e⟩

end Element
end ThemeMenu
