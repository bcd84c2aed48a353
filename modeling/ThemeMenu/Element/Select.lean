import ThemeMenu.Element.Basic

/-!
# ThemeMenu.Element.Select

Select elements and their options. The options of an element are its direct children with the tag
`option`; other children are no options, and their positions do not count. An option is chosen
by the attribute `selected`, whatever its value.

* `Element.selectedIndex?`: the position of the first chosen option, or the first position when
  none is chosen.
* `Element.choose`: moves the mark to one option.
* `selectedIndex?_lt`: the selected position is the position of an option.
-/

namespace ThemeMenu
namespace Element

def isSelect (e : Element) : Bool := e.tag == "select"

def isOption (e : Element) : Bool := e.tag == "option"

def isChosen (e : Element) : Bool := e.hasAttribute "selected"

def options (e : Element) : List Element := e.children.filter isOption

/-- Nothing for an element that is no select or has no options. -/
def selectedIndex? (e : Element) : Option Nat :=
  if e.isSelect then
    match e.options with
    | [] => none
    | os => some ((os.findIdx? isChosen).getD 0)
  else none

/-- Marks or unmarks one option. -/
def mark (chosen : Bool) (e : Element) : Element :=
  if chosen then e.setAttribute "selected" "" else e.removeAttribute "selected"

/-- Leaves exactly the option `i` places ahead marked; `none` once it lies behind. -/
def chooseAmong : Option Nat → List Element → List Element
  | _, [] => []
  | i, e :: es =>
    if e.isOption then
      match i with
      | some 0 => mark true e :: chooseAmong none es
      | some (n + 1) => mark false e :: chooseAmong (some n) es
      | none => mark false e :: chooseAmong none es
    else e :: chooseAmong i es

def choose (i : Nat) (e : Element) : Element :=
  { e with children := chooseAmong (some i) e.children }

theorem selectedIndex?_lt {e : Element} {i : Nat} (h : e.selectedIndex? = some i) :
    i < e.options.length := by
  unfold selectedIndex? at h
  split at h
  · split at h
    · cases h
    · rename_i hos
      have hpos : 0 < e.options.length := List.length_pos_iff.2 hos
      cases hf : e.options.findIdx? isChosen with
      | none =>
        rw [hf] at h
        cases h
        exact hpos
      | some k =>
        rw [hf] at h
        cases h
        exact (List.findIdx?_eq_some_iff_getElem.1 hf).1
  · cases h

end Element
end ThemeMenu
