import ThemeMenu.Element.Lookup
import ThemeMenu.Element.Select
import ThemeMenu.Page.Basic

/-!
# ThemeMenu.Page.Document

A whole page: a tree of elements below a `body` element. Ids need not be unique; an id means the
first element that carries it in document order.

* `Document.find?`, `Document.childrenAt`: reading.
* `Document.choose`: picking an option of a select, after three checks.
* The instance of `Page`: a document can host the menu.
-/

namespace ThemeMenu

structure Document where
  body : Element := { tag := "body" }
deriving DecidableEq

namespace Document

/-- A page with the given top-level elements. -/
def ofElements (es : List Element) : Document := ⟨{ tag := "body", children := es }⟩

def find? (d : Document) (id : String) : Option Element := d.body.find? id

def update? (d : Document) (id : String) (f : Element → Element) : Option Document :=
  match d.body.update? id f with
  | some body => some ⟨body⟩
  | none => none

theorem isSome_update? (d : Document) (id : String) (f : Element → Element) :
    (d.update? id f).isSome = (d.find? id).isSome := by
  rw [find?, ← Element.isSome_update? id f, update?]
  cases d.body.update? id f <;> rfl

instance : Page Document where
  element? := find?
  update? := update?
  isSome_update? := isSome_update?

def childrenAt (d : Document) (id : String) : Except PageError (List Element) :=
  match d.find? id with
  | some e => .ok e.children
  | none => .error (.elementNotFound id)

def choiceLine (id : String) (index : Nat) : Log.Line :=
  Log.debug ("Selected option " ++ toString index ++ " of " ++ id)

/-- Picks an option of an element, which must be a select and have an option at the position. -/
def choosing (id : String) (index : Nat) : Routine Element PageError Nat := do
  let e ← .get
  unless e.isSelect do
    .fail (.notASelector id)
  unless index < e.options.length do
    .fail (.optionOutOfRange id index e.options.length)
  .modify (·.choose index)
  .report [choiceLine id index]
  return index

/-- Picks an option of the element with an id. The answer is its position, the selected one from
then on. -/
def choose (d : Document) (id : String) (index : Nat) : Step Document PageError Nat :=
  Page.visit d id (choosing id index)

def describe (d : Document) : String := record "MemoryPage" [("body", d.body.describe)]

end Document
end ThemeMenu
