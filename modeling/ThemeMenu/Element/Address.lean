import ThemeMenu.Element.Lookup

/-!
# ThemeMenu.Element.Address

Places in a tree. An address leads from an element to one below it by the positions of the
children on the way; the empty address is the element itself.

* `Element.at?`, `Element.modifyAt`: reading and rewriting at an address.
* `Element.locate?`: the address an id leads to.
* `find?_eq_at?_locate?`, `update?_eq_modifyAt_locate?`: finding and rewriting by id meet at the
  same address.
-/

namespace ThemeMenu

abbrev Address : Type := List Nat

namespace Element

def at? : Address → Element → Option Element
  | [], e => some e
  | i :: a, e =>
    match e.children[i]? with
    | some child => at? a child
    | none => none

def modifyAt (f : Element → Element) : Address → Element → Element
  | [], e => f e
  | i :: a, e => { e with children := e.children.modify i (modifyAt f a) }

mutual

def locate? (id : String) : Element → Option Address
  | ⟨_, i, _, _, children⟩ =>
    if i = some id then some []
    else
      match locateAmong? id children with
      | some (k, a) => some (k :: a)
      | none => none

/-- The position of the element that an id leads to or through, and the address from there. -/
def locateAmong? (id : String) : List Element → Option (Nat × Address)
  | [] => none
  | e :: es =>
    match locate? id e with
    | some a => some (0, a)
    | none =>
      match locateAmong? id es with
      | some (k, a) => some (k + 1, a)
      | none => none

end

mutual

theorem isSome_locate? (id : String) :
    ∀ e : Element, (e.locate? id).isSome = (e.find? id).isSome
  | ⟨tag, i, attributes, text, children⟩ => by
    have ih := isSome_locateAmong? id children
    by_cases h : i = some id
    · simp [find?, locate?, h]
    · simp only [find?, locate?, h, if_false, ← ih]
      cases locateAmong? id children <;> rfl

theorem isSome_locateAmong? (id : String) :
    ∀ es : List Element, (locateAmong? id es).isSome = (findAmong? id es).isSome
  | [] => rfl
  | e :: es => by
    have h := isSome_locate? id e
    have ih := isSome_locateAmong? id es
    simp only [findAmong?, locateAmong?]
    cases hl : locate? id e <;> cases hf : find? id e <;> simp_all
    rw [← ih]
    cases locateAmong? id es <;> rfl

end

mutual

theorem find?_eq_at?_locate? (id : String) :
    ∀ e : Element, e.find? id = (e.locate? id).bind fun a => e.at? a
  | ⟨tag, i, attributes, text, children⟩ => by
    have ih := findAmong?_eq_at?_locateAmong? id children
    by_cases h : i = some id
    · simp [find?, locate?, h, at?]
    · simp only [find?, locate?, h, if_false, ih]
      cases locateAmong? id children with
      | none => rfl
      | some p => rfl

theorem findAmong?_eq_at?_locateAmong? (id : String) :
    ∀ es : List Element, findAmong? id es
      = (locateAmong? id es).bind fun p =>
          match es[p.1]? with
          | some e => e.at? p.2
          | none => none
  | [] => rfl
  | e :: es => by
    have h := find?_eq_at?_locate? id e
    have ih := findAmong?_eq_at?_locateAmong? id es
    simp only [findAmong?, locateAmong?, h, ih]
    cases hl : locate? id e with
    | some a =>
      have hs : (e.find? id).isSome := by
        rw [← isSome_locate? id e, hl]; rfl
      rw [h, hl] at hs
      cases ha : e.at? a with
      | some x => simp [ha]
      | none => simp [ha] at hs
    | none =>
      cases locateAmong? id es with
      | none => rfl
      | some p => rfl

end

mutual

theorem update?_eq_modifyAt_locate? (id : String) (f : Element → Element) :
    ∀ e : Element, e.update? id f = (e.locate? id).map fun a => e.modifyAt f a
  | ⟨tag, i, attributes, text, children⟩ => by
    have ih := updateAmong?_eq_modify_locateAmong? id f children
    by_cases h : i = some id
    · simp [update?, locate?, h, modifyAt]
    · simp only [update?, locate?, h, if_false, ih]
      cases locateAmong? id children with
      | none => rfl
      | some p => rfl

theorem updateAmong?_eq_modify_locateAmong? (id : String) (f : Element → Element) :
    ∀ es : List Element, updateAmong? id f es
      = (locateAmong? id es).map fun p => es.modify p.1 (modifyAt f p.2)
  | [] => rfl
  | e :: es => by
    have h := update?_eq_modifyAt_locate? id f e
    have ih := updateAmong?_eq_modify_locateAmong? id f es
    simp only [updateAmong?, locateAmong?, h, ih]
    cases locate? id e with
    | some a => rfl
    | none =>
      cases locateAmong? id es with
      | none => rfl
      | some p => rfl

end

end Element
end ThemeMenu
