import ThemeMenu.Proofs.Page.Insertion
import ThemeMenu.Proofs.Tree.Choosing

/-!
# ThemeMenu.Proofs.Page.Choosing

Choosing an option in a document. The mark moves to the option, and that is all: every other
attribute, every other element and every id stays as it is and where it is.

* `Document.chooseAt`: the document after a choice.
* `choose_cases`: a choice is one at the address of a select with such an option, or it is refused.
* `choose_eq_error_iff`, `after_choose_of_error`: when it is refused, and that nothing has changed.
* `alone_at?_chooseAt`: what a choice leaves alone.
* `choose_moves_mark`: the effect of a choice as a whole.
-/

namespace ThemeMenu
namespace Document

def chooseAt (d : Document) (a : Address) (i : Nat) : Document :=
  ⟨d.body.modifyAt (·.choose i) a⟩

variable {d : Document} {id : String} {a : Address} {n : Element} {i : Nat}

/-! ## The checks -/

section Checks

theorem choosing_of_not_select (hs : n.isSelect = false) :
    choosing id i n = ⟨.error (.notASelector id), n, []⟩ := by
  show Routine.run n (choosing id i) = _
  simp [choosing, hs]

theorem choosing_of_no_option (hs : n.isSelect = true) (hi : n.options.length ≤ i) :
    choosing id i n = ⟨.error (.optionOutOfRange id i n.options.length), n, []⟩ := by
  show Routine.run n (choosing id i) = _
  simp [choosing, hs, Nat.not_lt.2 hi]

theorem choosing_of_option (hs : n.isSelect = true) (hi : i < n.options.length) :
    choosing id i n = ⟨.ok i, n.choose i, [choiceLine id i]⟩ := by
  show Routine.run n (choosing id i) = _
  simp [choosing, hs, hi]

end Checks

theorem choose_of_leadsTo (h : d.LeadsTo id a n) (hs : n.isSelect = true)
    (hi : i < n.options.length) :
    d.choose id i = ⟨.ok i, d.chooseAt a i, [choiceLine id i]⟩ := by
  obtain ⟨ha, hn⟩ := leadsTo_iff.1 h
  have hafter : d.body.modifyAt (fun e => (choosing id i e).after) a
      = d.body.modifyAt (·.choose i) a := by
    apply Element.modifyAt_congr
    intro m hm
    rw [hn] at hm
    cases hm
    rw [choosing_of_option hs hi]
  rw [choose, visit_of_locate? _ ha hn, hafter, choosing_of_option hs hi, chooseAt]

theorem choose_of_not_select (h : d.LeadsTo id a n) (hs : n.isSelect = false) (i : Nat) :
    d.choose id i = ⟨.error (.notASelector id), d, []⟩ := by
  obtain ⟨ha, hn⟩ := leadsTo_iff.1 h
  have hr : choosing id i n = ⟨.error (.notASelector id), n, []⟩ := choosing_of_not_select hs
  rw [choose, visit_of_unchanged ha hn (by rw [hr]), hr]

theorem choose_of_no_option (h : d.LeadsTo id a n) (hs : n.isSelect = true)
    (hi : n.options.length ≤ i) :
    d.choose id i = ⟨.error (.optionOutOfRange id i n.options.length), d, []⟩ := by
  obtain ⟨ha, hn⟩ := leadsTo_iff.1 h
  have hr : choosing id i n = ⟨.error (.optionOutOfRange id i n.options.length), n, []⟩ :=
    choosing_of_no_option hs hi
  rw [choose, visit_of_unchanged ha hn (by rw [hr]), hr]

/-- A choice is taken, at the address of a select with such an option; or it is refused, for one of
three reasons, and the document stays as it is. -/
theorem choose_cases (d : Document) (id : String) (i : Nat) :
    (d.find? id = none ∧ d.choose id i = ⟨.error (.elementNotFound id), d, []⟩) ∨
    ∃ a n, d.LeadsTo id a n ∧
      ((n.isSelect = false ∧ d.choose id i = ⟨.error (.notASelector id), d, []⟩) ∨
        (n.isSelect = true ∧ n.options.length ≤ i ∧
          d.choose id i = ⟨.error (.optionOutOfRange id i n.options.length), d, []⟩) ∨
        (n.isSelect = true ∧ i < n.options.length ∧
          d.choose id i = ⟨.ok i, d.chooseAt a i, [choiceLine id i]⟩)) := by
  cases hf : d.find? id with
  | none => exact .inl ⟨rfl, Page.visit_of_none hf _⟩
  | some m =>
    obtain ⟨a, n, h⟩ := exists_leadsTo (Option.isSome_iff_exists.2 ⟨m, hf⟩)
    refine .inr ⟨a, n, h, ?_⟩
    cases hs : n.isSelect with
    | false => exact .inl ⟨rfl, choose_of_not_select h hs i⟩
    | true =>
      by_cases hi : i < n.options.length
      · exact .inr (.inr ⟨rfl, hi, choose_of_leadsTo h hs hi⟩)
      · exact .inr (.inl ⟨rfl, Nat.not_lt.1 hi, choose_of_no_option h hs (Nat.not_lt.1 hi)⟩)

theorem exists_leadsTo_of_choose {r : Nat} (h : (d.choose id i).result = .ok r) :
    ∃ a n, d.LeadsTo id a n ∧ n.isSelect = true ∧ i < n.options.length ∧
      d.choose id i = ⟨.ok i, d.chooseAt a i, [choiceLine id i]⟩ := by
  obtain ⟨-, hq⟩ | ⟨a, n, hl, ⟨-, hq⟩ | ⟨-, -, hq⟩ | ⟨hs, hi, hq⟩⟩ := choose_cases d id i
  · rw [hq] at h
    cases h
  · rw [hq] at h
    cases h
  · rw [hq] at h
    cases h
  · exact ⟨a, n, hl, hs, hi, hq⟩

/-- The three reasons to refuse a choice, in the order in which they are looked at. -/
theorem choose_eq_error_iff {e : PageError} :
    (d.choose id i).result = .error e ↔
      (d.find? id = none ∧ e = .elementNotFound id) ∨
      ∃ n, d.find? id = some n ∧
        ((n.tag ≠ "select" ∧ e = .notASelector id) ∨
          (n.tag = "select" ∧ n.options.length ≤ i ∧
            e = .optionOutOfRange id i n.options.length)) := by
  obtain ⟨hn, hq⟩ | ⟨a, n, hl, hcases⟩ := choose_cases d id i
  · simp [hq, hn, eq_comm]
  · have htag : n.isSelect = true ↔ n.tag = "select" := by simp [Element.isSelect]
    obtain ⟨hs, hq⟩ | ⟨hs, hi, hq⟩ | ⟨hs, hi, hq⟩ := hcases
    · have hne : n.tag ≠ "select" := by simpa [Element.isSelect] using hs
      simp [hq, hl.element, hne, @eq_comm _ _ e]
    · simp [hq, hl.element, htag.1 hs, hi, @eq_comm _ _ e]
    · simp [hq, hl.element, htag.1 hs, Nat.not_le.2 hi]

/-- A choice that is refused leaves no half-moved mark. -/
theorem after_choose_of_error {e : PageError} (h : (d.choose id i).result = .error e) :
    (d.choose id i).after = d := by
  obtain ⟨-, hq⟩ | ⟨a, n, -, ⟨-, hq⟩ | ⟨-, -, hq⟩ | ⟨-, -, hq⟩⟩ := choose_cases d id i
  · rw [hq]
  · rw [hq]
  · rw [hq]
  · rw [hq] at h
    cases h

theorem locate?_chooseAt (d : Document) (a : Address) (i : Nat) (id : String) :
    (d.chooseAt a i).body.locate? id = d.body.locate? id := by
  apply Element.locate?_modifyAt
  intro n _
  exact Element.locate?_choose id i n

theorem leadsTo_chooseAt (h : d.LeadsTo id a n) (i : Nat) :
    (d.chooseAt a i).LeadsTo id a (n.choose i) := by
  obtain ⟨ha, hn⟩ := leadsTo_iff.1 h
  rw [leadsTo_iff, locate?_chooseAt, chooseAt, Element.at?_modifyAt, hn]
  exact ⟨ha, rfl⟩

theorem at?_chooseAt_below (hn : d.body.at? a = some n) (i : Nat) (b : Address) :
    (d.chooseAt a i).body.at? (a ++ b) = (n.choose i).at? b := by
  rw [chooseAt, Element.at?_append, Element.at?_modifyAt, hn]
  rfl

theorem alone_at?_chooseAt (hn : d.body.at? a = some n) {b : Address}
    (h : ∀ p c, b = a ++ [p] → n.children[p]? = some c → c.isOption = false) (i : Nat) :
    ((d.chooseAt a i).body.at? b).map Element.alone = (d.body.at? b).map Element.alone := by
  by_cases hb : a <+: b
  · obtain ⟨b, rfl⟩ := hb
    rw [at?_chooseAt_below hn, Element.at?_append, hn, Option.bind_some]
    apply Element.alone_at?_choose
    rintro p c rfl hc
    exact h p c rfl hc
  · exact Element.alone_at?_modifyAt hb _ d.body

theorem choose_again (h : d.LeadsTo id a n) (hs : n.isSelect = true) (hi : i < n.options.length) :
    (d.chooseAt a i).choose id i = ⟨.ok i, d.chooseAt a i, [choiceLine id i]⟩ := by
  have hi' : i < (n.choose i).options.length := by rwa [Element.length_options_choose]
  have hsame : (d.chooseAt a i).chooseAt a i = d.chooseAt a i := by
    rw [chooseAt, chooseAt, Element.modifyAt_modifyAt]
    simp only [Element.choose_choose_self]
  rw [choose_of_leadsTo (leadsTo_chooseAt h i) hs hi', hsame]

/-- The mark has moved to option `i` of the select at an address, which was `n` and is now `n'`. -/
structure MovesMark (d q : Document) (a : Address) (n n' : Element) (i : Nat) : Prop where
  index : n'.selectedIndex? = some i
  count : n'.options.length = n.options.length
  /-- Option `i` alone has the mark; without it, all options are what they were. -/
  options : ∀ k o o', n.options[k]? = some o → n'.options[k]? = some o' →
    o'.attribute? "selected" = (if i = k then some "" else none) ∧
      o'.attributes.erase "selected" = o.attributes.erase "selected" ∧
      { o' with attributes := o.attributes } = o
  /-- The options stand in their old places among the children. -/
  places : ∀ p o, n.children[p]? = some o → o.isOption = true →
    n.options[Element.rank p n.children]? = some o ∧
      q.body.at? (a ++ [p]) = n'.options[Element.rank p n.children]?
  /-- No element in any other place has changed. -/
  others : ∀ b, (∀ p c, b = a ++ [p] → n.children[p]? = some c → c.isOption = false) →
    (q.body.at? b).map Element.alone = (d.body.at? b).map Element.alone

theorem movesMark_chooseAt (hn : d.body.at? a = some n) (hs : n.isSelect = true)
    (hi : i < n.options.length) : MovesMark d (d.chooseAt a i) a n (n.choose i) i where
  index := Element.selectedIndex?_choose hs hi
  count := Element.length_options_choose i n
  options := by
    intro k o o' ho ho'
    rw [Element.getElem?_options_choose, ho] at ho'
    cases ho'
    refine ⟨?_, Element.erase_attributes_mark o _, Element.mark_of_attributes o _⟩
    rw [Element.selected_mark]
    simp only [decide_eq_true_eq]
  places := by
    intro p o hp ho
    have hrank : n.options[Element.rank p n.children]? = some o := Element.getElem?_rank hp ho
    refine ⟨hrank, ?_⟩
    rw [at?_chooseAt_below hn, Element.getElem?_options_choose, hrank]
    simp only [Element.choose, Element.at?_cons, Element.getElem?_chooseAmong, hp, Option.map_some,
      ho, if_true, Option.some_inj]
    rfl
  others := fun _ hb => alone_at?_chooseAt hn hb i

/-- **A choice moves the mark and touches nothing else.** When it is taken it answers the position
that was asked for; the id still leads to the same select, now with the mark on that option; every
id leads where it led before; and the same choice made again changes nothing. -/
theorem choose_moves_mark (d q : Document) (id : String) (index r : Nat) (logs : List Log.Line)
    (h : d.choose id index = ⟨.ok r, q, logs⟩) :
    r = index ∧
    (∃ a n n', d.LeadsTo id a n ∧ q.LeadsTo id a n' ∧ MovesMark d q a n n' index) ∧
    (∀ x, q.body.locate? x = d.body.locate? x) ∧
    q.choose id index = ⟨.ok index, q, logs⟩ := by
  obtain ⟨a, n, hl, hs, hi, hq⟩ := exists_leadsTo_of_choose (r := r) (by rw [h])
  rw [hq] at h
  cases h
  refine ⟨rfl, ⟨a, n, n.choose index, hl, leadsTo_chooseAt hl index, ?_⟩, ?_, choose_again hl hs hi⟩
  · exact movesMark_chooseAt (leadsTo_iff.1 hl).2 hs hi
  · exact locate?_chooseAt d a index

/-- A select with two marks, of which one lies further down, a rule between its options, and a
second select with the same id. -/
theorem choose_moves_mark_doubled :
    let light : Element :=
      { tag := "option", attributes := ⟨[("selected", "x"), ("class", "a")]⟩ }
    let group : Element := { tag := "optgroup", children := [light] }
    let dark : Element := { tag := "option", attributes := ⟨[("class", "b")]⟩ }
    let select : Element :=
      { tag := "select", id := some "s", children := [light, group, dark] }
    let d := Document.ofElements [select, { select with text := some "later" }]
    let q := d.chooseAt [0] 1
    let chosen : Step Document PageError Nat :=
      ⟨.ok 1, q, [Log.debug "Selected option 1 of s"]⟩
    d.choose "s" 1 = chosen ∧
      (q.find? "s").bind Element.selectedIndex? = some 1 ∧
      (q.body.at? [0, 1]).map Element.alone = some group.alone ∧
      (q.body.at? [0, 0]).map (·.attributes.pairs) = some [("class", "a")] ∧
      q.choose "s" 1 = chosen := by
  intro light group dark select d q chosen
  have hq : d.choose "s" 1 = chosen := rfl
  obtain ⟨-, ⟨a, n, n', hn, hn', hmoves⟩, -, hagain⟩ := choose_moves_mark d q "s" 1 1 _ hq
  have ha : a = [0] := by
    have hplace : d.body.locate? "s" = some [0] := rfl
    exact Option.some.inj (hn.place.symm.trans hplace)
  have hselect : n = select := by
    have hfind : d.find? "s" = some select := rfl
    exact Option.some.inj (hn.element.symm.trans hfind)
  subst ha hselect
  refine ⟨hq, ?_, ?_, rfl, hagain⟩
  · rw [hn'.element]
    exact hmoves.index
  · apply hmoves.others
    intro p c hp hc
    cases hp
    cases hc
    rfl

end Document
end ThemeMenu
