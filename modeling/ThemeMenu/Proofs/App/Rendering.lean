import ThemeMenu.Proofs.App.EventValue
import ThemeMenu.Proofs.Tree.Choosing

/-!
# ThemeMenu.Proofs.App.Rendering

What is on screen for an element of the menu, and where it leads. A select is shown with its options
alone, each with its position as its value; the value comes back with a change event, and read as a
number it is the position again. The positions are counted once where the values are written and
once where the mark is looked for; both counts pass over the children that are no options.

* `Control.shownOption`: the option on screen for an option of the element.
* `Control.Shows`: what is on screen for a select.
* `Session.fire?`, `Session.LeadsTo`: an event on it, and what the event does.
* `map_html_ofOptions`, `findIdx?_isMarked`: the two counts.
* `shown_values_lead_back`: all elements, in every state.
-/

namespace ThemeMenu

namespace Html

def attributes : Html → List HtmlAttribute
  | .text _ => []
  | .element _ attributes _ => attributes
  | .void _ attributes => attributes

def valueIn? (name : String) : List HtmlAttribute → Option String
  | [] => none
  | .value n value :: as => if n = name then some value else valueIn? name as
  | .flag _ _ :: as => valueIn? name as

def value? (h : Html) : Option String := valueIn? "value" h.attributes

def isMarked (h : Html) : Bool := h.attributes.contains (.flag "selected" true)

/-- The index that comes back when this node is picked. -/
def index? (h : Html) : Option Nat := h.value?.bind numeral?

end Html

namespace Control

open Html (isMarked)

/-- The option on screen for the option with `k` others before it. -/
def shownOption (k : Nat) (o : Element) : Html :=
  .element "option" [.value "value" (toString k), .flag "selected" (o.hasAttribute "selected")]
    [.text (o.text.getD "")]

/-- With an option marked, the first mark on screen is at the selected position. -/
structure Shows (e : Element) (shown : List Html) : Prop where
  html : htmlOf e = [.element "select"
    [.value "id" (e.id.getD ""), .value "class" "custom-select"] shown]
  options : shown = (e.children.filter (·.tag == "option")).mapIdx shownOption
  marked : shown.any isMarked = true → shown.findIdx? isMarked = e.selectedIndex?

@[simp] theorem value?_shownOption (k : Nat) (o : Element) :
    (shownOption k o).value? = some (toString k) := rfl

@[simp] theorem isMarked_shownOption (k : Nat) (o : Element) :
    isMarked (shownOption k o) = o.isChosen := by
  simp [isMarked, shownOption, Html.attributes, Element.isChosen]

theorem mapIdx_shownOption_cons (k : Nat) (o : Element) (os : List Element) :
    ((o :: os).mapIdx fun i o => shownOption (k + i) o)
      = shownOption k o :: os.mapIdx fun i o => shownOption (k + 1 + i) o := by
  have hnext : ∀ i, k + (i + 1) = k + 1 + i := fun i => (Nat.succ_add k i).symm
  rw [List.mapIdx_cons]
  exact congrArg _ (congrArg (List.mapIdx · os) (funext fun i => by rw [hnext]))

theorem map_html_ofOptions (k : Nat) (os : List Element) :
    (Choice.ofOptions k os).map Choice.html = os.mapIdx fun i o => shownOption (k + i) o := by
  induction os generalizing k with
  | nil => rfl
  | cons o os ih =>
    rw [Choice.ofOptions, List.map_cons, ih, mapIdx_shownOption_cons]
    rfl

/-- The first mark among options on screen, wherever their values start. -/
theorem findIdx?_isMarked (k : Nat) (os : List Element) :
    (os.mapIdx fun i o => shownOption (k + i) o).findIdx? isMarked
      = os.findIdx? Element.isChosen := by
  induction os generalizing k with
  | nil => rfl
  | cons o os ih =>
    rw [mapIdx_shownOption_cons, List.findIdx?_cons, List.findIdx?_cons, isMarked_shownOption, ih]

variable {e : Element}

theorem shows_of_isSelect (hs : e.isSelect = true) :
    Shows e (e.options.mapIdx shownOption) := by
  have hfirst : (e.options.mapIdx shownOption).findIdx? isMarked
      = e.options.findIdx? Element.isChosen := by
    simpa using findIdx?_isMarked 0 e.options
  refine ⟨?_, rfl, ?_⟩
  · have hshown := map_html_ofOptions 0 e.options
    simp only [Nat.zero_add] at hshown
    simp only [htmlOf, ofElement?, hs, if_true, html, hshown]
  · intro hany
    rw [← List.findIdx?_isSome, hfirst, Option.isSome_iff_exists] at hany
    obtain ⟨i, hi⟩ := hany
    rw [hfirst, hi, Element.selectedIndex?_of_findIdx? hs hi]

theorem htmlOf_of_not_isSelect (hs : e.isSelect = false) : htmlOf e = [] := by
  simp [htmlOf, ofElement?, hs]

end Control

namespace Session

open Numeral (limit writes_toString)

/-- A change event on what is on screen for an element of the menu, if anything is. -/
def fire? (s : Session) (e : Element) (value : String) : Option Session :=
  match Control.htmlOf e with
  | [] => none
  | _ :: _ => some (s.pick value)

/-- The event with this value is a change to the index `k`: to light, to dark, or to no theme. -/
structure LeadsTo (s : Session) (e : Element) (value : String) (k : Nat) : Prop where
  fires : s.fire? e value = some (s.pick value)
  obeys : s.Obeys value k
  light : k = 0 → (s.pick value).chooser = (s.chooser.apply .light).after
  dark : k = 1 → (s.pick value).chooser = (s.chooser.apply .dark).after
  ignored : 2 ≤ k → (s.pick value).chooser = s.chooser

variable {s : Session} {e : Element} {k : Nat}

theorem leadsTo_toString (hs : e.isSelect = true) (hk : k ≤ limit) :
    s.LeadsTo e (toString k) k := by
  have hobeys : s.Obeys (toString k) k := obeys_of_writes (writes_toString k) hk
  refine ⟨?_, hobeys, ?_, ?_, ?_⟩
  · simp only [fire?, (Control.shows_of_isSelect hs).html]
  · rintro rfl
    exact hobeys.chooser.trans (Chooser.change_of_theme rfl).2
  · rintro rfl
    exact hobeys.chooser.trans (Chooser.change_of_theme rfl).2
  · intro h2
    rw [hobeys.chooser, Chooser.after_change_of_le h2]

theorem index?_shownOption (o : Element) (hk : k ≤ limit) :
    (Control.shownOption k o).index? = some k :=
  numeral?_eq_some_iff.2 ⟨writes_toString k, hk⟩

/-- **The values on screen lead back to the options.** A select shows one option for each of its
children that is one, in their order, with its position in decimal, its mark and its text. In every
state an event with the value of the option at `k` is a change to the index `k`, and no two options
on screen carry the same index. Anything but a select shows nothing and takes no event. -/
theorem shown_values_lead_back (s : Session) (e : Element) (hn : e.options.length ≤ limit) :
    (e.tag = "select" → ∃ shown, Control.Shows e shown ∧
      (∀ k h, shown[k]? = some h → ∃ value, h.value? = some value ∧ s.LeadsTo e value k) ∧
      ∀ (j k : Nat) (g h : Html), shown[j]? = some g → shown[k]? = some h →
        g.index? = h.index? → j = k) ∧
    (e.tag ≠ "select" → Control.htmlOf e = [] ∧ ∀ value, s.fire? e value = none) := by
  constructor
  · intro htag
    have hs : e.isSelect = true := beq_iff_eq.2 htag
    -- a position on screen is the position of an option, so it is below the limit of indices
    have hat : ∀ {k h}, (e.options.mapIdx Control.shownOption)[k]? = some h →
        ∃ o, h = Control.shownOption k o ∧ k ≤ limit := by
      intro k h hk
      rw [List.getElem?_mapIdx] at hk
      obtain ⟨o, ho, rfl⟩ := Option.map_eq_some_iff.1 hk
      have hlt : k < e.options.length := (List.getElem?_eq_some_iff.1 ho).1
      exact ⟨o, rfl, Nat.le_of_lt (Nat.lt_of_lt_of_le hlt hn)⟩
    refine ⟨_, Control.shows_of_isSelect hs, ?_, ?_⟩
    · intro k h hk
      obtain ⟨o, rfl, hle⟩ := hat hk
      exact ⟨toString k, Control.value?_shownOption k o, leadsTo_toString hs hle⟩
    · intro j k g h hj hk hindex
      obtain ⟨o, rfl, hjle⟩ := hat hj
      obtain ⟨o', rfl, hkle⟩ := hat hk
      rw [index?_shownOption o hjle, index?_shownOption o' hkle] at hindex
      exact Option.some.inj hindex
  · intro htag
    have hs : e.isSelect = false := beq_eq_false_iff_ne.2 htag
    have hhtml : Control.htmlOf e = [] := Control.htmlOf_of_not_isSelect hs
    refine ⟨hhtml, ?_⟩
    intro value
    simp only [fire?, hhtml]

/-- A rule stands before and between the options, and the mark on the last one. The option at 1 is
the third child; its value is dark, and the value after it is no theme. The rule alone is nothing to
pick from. -/
theorem shown_values_lead_back_between_rules :
    let s := ofConfig {}
    let e : Element := { tag := "select", children := [{ tag := "hr" },
      { tag := "option", text := some "A" }, { tag := "option", text := some "B" }, { tag := "hr" },
      { tag := "option", attributes := ⟨[("selected", "")]⟩ }] }
    e.options.length ≤ limit ∧
      (∃ shown, Control.Shows e shown ∧ shown.length = 3 ∧ shown.findIdx? Html.isMarked = some 2) ∧
      (s.fire? e "1").map (·.chooser.selected) = some .dark ∧ (s.pick "2").chooser = s.chooser ∧
      s.fire? { tag := "hr" } "1" = none := by
  intro s e
  have hn : e.options.length ≤ limit := by decide
  obtain ⟨shown, hshows, hleads, -⟩ := (shown_values_lead_back s e hn).1 rfl
  have hoptions := hshows.options
  subst hoptions
  obtain ⟨value, hvalue, hdark⟩ := hleads 1 _ rfl
  obtain rfl : "1" = value := Option.some.inj hvalue
  obtain ⟨value, hvalue, hnone⟩ := hleads 2 _ rfl
  obtain rfl : "2" = value := Option.some.inj hvalue
  refine ⟨hn, ⟨_, hshows, rfl, by decide⟩, ?_, hnone.ignored (Nat.le_refl 2), ?_⟩
  · rw [hdark.fires, Option.map_some, hdark.dark rfl]
    decide
  · exact ((shown_values_lead_back s { tag := "hr" } (by decide)).2 (by decide)).2 "1"

end Session
end ThemeMenu
