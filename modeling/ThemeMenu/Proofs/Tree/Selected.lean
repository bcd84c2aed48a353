import ThemeMenu.Proofs.Tree.Choosing

/-!
# ThemeMenu.Proofs.Tree.Selected

The selected position of a select, told from its children. The marks of the options decide: the
first marked option is selected, and without any mark the first option is. Children that are no
options stand between them and do not count. A child that is added comes after all others, so it
takes nothing from an option that is marked.

* `Element.MarkedOption`, `Element.Selects`: the position that the marks among some children select.
* `findIdx?_filter_isOption`: places among the children and positions among the options.
* `selectedIndex?_eq_some_iff`, `selectedIndex?_eq_none_iff`: when one is selected, and which.
* `selectedIndex?_append_option`, `selectedIndex?_foldl_append`: more children.
* `marks_select_position`: all of it, for all elements.
-/

namespace ThemeMenu
namespace Element

/-- An option with a mark, whatever the value of the mark. -/
def MarkedOption (c : Element) : Prop :=
  c.tag = "option" ∧ ∃ v, c.attribute? "selected" = some v

/-- The position, among the options of these children, that their marks select. -/
inductive Selects (es : List Element) : Nat → Prop where
  | first {p : Nat} {c : Element} (hc : es[p]? = some c) (hm : c.MarkedOption)
      (hfirst : ∀ q < p, ∀ d, es[q]? = some d → ¬ d.MarkedOption) : Selects es (rank p es)
  | unmarked (hno : ∀ d ∈ es, ¬ d.MarkedOption) : Selects es 0

variable {e c : Element} {es : List Element} {k p : Nat}

theorem markedOption_iff : c.MarkedOption ↔ (c.isOption && c.isChosen) = true := by
  simp [MarkedOption, isOption, isChosen, hasAttribute, Attributes.has, attribute?,
    Option.isSome_iff_exists]

/-! ## Places and positions -/

theorem findIdx?_filter_isOption (es : List Element) :
    (es.filter isOption).findIdx? isChosen
      = (es.findIdx? fun c => c.isOption && c.isChosen).map (rank · es) := by
  induction es with
  | nil => rfl
  | cons e es ih =>
    cases ho : e.isOption with
    | true =>
      cases hc : e.isChosen with
      | true => simp [ho, hc, List.findIdx?_cons, rank]
      | false =>
        simp [ho, hc, List.findIdx?_cons, ih, Function.comp_def, rank_succ_option ho]
    | false =>
      simp [ho, List.findIdx?_cons, ih, Function.comp_def, rank_succ_other ho]

theorem findIdx?_marked_iff :
    (es.findIdx? fun c => c.isOption && c.isChosen) = some p ↔
      (∃ c, es[p]? = some c ∧ c.MarkedOption) ∧
        ∀ q < p, ∀ d, es[q]? = some d → ¬ d.MarkedOption := by
  rw [List.findIdx?_eq_some_iff_getElem]
  constructor
  · rintro ⟨hp, hm, hfirst⟩
    refine ⟨⟨es[p], List.getElem?_eq_getElem hp, markedOption_iff.2 hm⟩, ?_⟩
    intro q hq d hd
    obtain ⟨hlt, rfl⟩ := List.getElem?_eq_some_iff.1 hd
    rw [markedOption_iff]
    exact hfirst q hq
  · rintro ⟨⟨c, hc, hm⟩, hfirst⟩
    obtain ⟨hp, rfl⟩ := List.getElem?_eq_some_iff.1 hc
    refine ⟨hp, markedOption_iff.1 hm, ?_⟩
    intro q hq
    have hno := hfirst q hq _ (List.getElem?_eq_getElem (Nat.lt_trans hq hp))
    rwa [markedOption_iff] at hno

theorem findIdx?_options_eq_none_iff :
    (es.filter isOption).findIdx? isChosen = none ↔ ∀ d ∈ es, ¬ d.MarkedOption := by
  simp only [findIdx?_filter_isOption, Option.map_eq_none_iff, List.findIdx?_eq_none_iff,
    markedOption_iff, Bool.not_eq_true]

/-- The marks select one position. -/
theorem selects_iff : Selects es k ↔ ((es.filter isOption).findIdx? isChosen).getD 0 = k := by
  constructor
  · rintro (⟨hc, hm, hfirst⟩ | hno)
    · rw [findIdx?_filter_isOption, findIdx?_marked_iff.2 ⟨⟨_, hc, hm⟩, hfirst⟩]
      rfl
    · rw [findIdx?_options_eq_none_iff.2 hno]
      rfl
  · rintro rfl
    cases hi : (es.filter isOption).findIdx? isChosen with
    | none => exact .unmarked (findIdx?_options_eq_none_iff.1 hi)
    | some i =>
      rw [findIdx?_filter_isOption] at hi
      obtain ⟨p, hp, rfl⟩ := Option.map_eq_some_iff.1 hi
      obtain ⟨⟨c, hc, hm⟩, hfirst⟩ := findIdx?_marked_iff.1 hp
      exact .first hc hm hfirst

/-! ## The selected position -/

theorem options_ne_nil_iff : e.options ≠ [] ↔ ∃ c ∈ e.children, c.tag = "option" := by
  simp [options, isOption]

theorem isSelect_iff : e.isSelect = true ↔ e.tag = "select" := beq_iff_eq

theorem selectedIndex?_of_not (h : ¬ (e.tag = "select" ∧ ∃ c ∈ e.children, c.tag = "option")) :
    e.selectedIndex? = none := by
  rw [← options_ne_nil_iff] at h
  by_cases hs : e.tag = "select"
  · have ho : e.options = [] := Classical.byContradiction fun ho => h ⟨hs, ho⟩
    simp [selectedIndex?, isSelect, hs, ho]
  · simp [selectedIndex?, isSelect, hs]

theorem selectedIndex?_eq_some_iff :
    e.selectedIndex? = some k ↔
      (e.tag = "select" ∧ ∃ c ∈ e.children, c.tag = "option") ∧ Selects e.children k := by
  by_cases h : e.tag = "select" ∧ ∃ c ∈ e.children, c.tag = "option"
  · have ho : e.options ≠ [] := options_ne_nil_iff.2 h.2
    rw [selectedIndex?_of_options (isSelect_iff.2 h.1) ho, Option.some.injEq, selects_iff, options,
      and_iff_right h]
  · simp [selectedIndex?_of_not h, h]

theorem selectedIndex?_eq_none_iff :
    e.selectedIndex? = none ↔ e.tag ≠ "select" ∨ ∀ c ∈ e.children, c.tag ≠ "option" := by
  have hnot : (e.tag ≠ "select" ∨ ∀ c ∈ e.children, c.tag ≠ "option") ↔
      ¬ (e.tag = "select" ∧ ∃ c ∈ e.children, c.tag = "option") := by
    rw [Classical.not_and_iff_not_or_not]
    simp
  rw [hnot]
  constructor
  · rintro hnone ⟨hs, ho⟩
    rw [selectedIndex?_of_options (isSelect_iff.2 hs) (options_ne_nil_iff.2 ho)] at hnone
    cases hnone
  · exact selectedIndex?_of_not

/-! ## One more child -/

theorem options_append (e c : Element) :
    (e.append c).options = e.options ++ [c].filter isOption := by
  simp [options, append]

theorem selectedIndex?_append_other (hc : c.tag ≠ "option") :
    (e.append c).selectedIndex? = e.selectedIndex? := by
  have ho : (e.append c).options = e.options := by simp [options_append, isOption, hc]
  rw [selectedIndex?, selectedIndex?, ho]
  rfl

/-- A mark that is there stays the first one. -/
theorem selectedIndex?_append_of_marked (hs : e.tag = "select")
    (hm : ∃ d ∈ e.children, d.MarkedOption) (c : Element) :
    (e.append c).selectedIndex? = e.selectedIndex? := by
  have hsel : e.isSelect = true := isSelect_iff.2 hs
  have hsel' : (e.append c).isSelect = true := hsel
  have hsome : e.options.findIdx? isChosen ≠ none := by
    intro hnone
    obtain ⟨d, hd, hdm⟩ := hm
    exact findIdx?_options_eq_none_iff.1 hnone d hd hdm
  obtain ⟨i, hi⟩ := Option.ne_none_iff_exists'.1 hsome
  have hi' : (e.append c).options.findIdx? isChosen = some i := by
    rw [options_append, List.findIdx?_append, hi, Option.some_or]
  rw [selectedIndex?_of_findIdx? hsel hi, selectedIndex?_of_findIdx? hsel' hi']

theorem selectedIndex?_append_option (hs : e.tag = "select")
    (hno : ∀ d ∈ e.children, ¬ d.MarkedOption) (hc : c.tag = "option") :
    (e.append c).selectedIndex? = some (if c.isChosen then e.options.length else 0) := by
  have ho : (e.append c).options = e.options ++ [c] := by simp [options_append, isOption, hc]
  have hi : e.options.findIdx? isChosen = none := findIdx?_options_eq_none_iff.2 hno
  have hsel : (e.append c).isSelect = true := isSelect_iff.2 hs
  rw [selectedIndex?_of_options hsel (by simp [ho]), ho, List.findIdx?_append, hi, Option.none_or,
    List.findIdx?_singleton]
  cases c.isChosen <;> simp

/-- Nor do any number of children move the first mark. -/
theorem selectedIndex?_foldl_append (hs : e.tag = "select")
    (hm : ∃ d ∈ e.children, d.MarkedOption) (cs : List Element) :
    (cs.foldl append e).selectedIndex? = e.selectedIndex? := by
  induction cs generalizing e with
  | nil => rfl
  | cons c cs ih =>
    obtain ⟨d, hd, hdm⟩ := hm
    have hm' : ∃ d ∈ (e.append c).children, d.MarkedOption :=
      ⟨d, List.mem_append_left [c] hd, hdm⟩
    rw [List.foldl_cons, ih (e := e.append c) hs hm',
      selectedIndex?_append_of_marked hs ⟨d, hd, hdm⟩ c]

/-- **The marks select the position.** Only a select with an option child has a selected position:
that of the first marked option among its options, or the first one if none is marked. Once an
option is marked no added child changes it. Before that an added option is selected if it is marked,
and otherwise the first option is. -/
theorem marks_select_position (e : Element) :
    (e.selectedIndex? = none ↔ e.tag ≠ "select" ∨ ∀ c ∈ e.children, c.tag ≠ "option") ∧
    (∀ k, e.selectedIndex? = some k ↔
      (e.tag = "select" ∧ ∃ c ∈ e.children, c.tag = "option") ∧ Selects e.children k) ∧
    (∀ k, e.selectedIndex? = some k → k < e.options.length) ∧
    (e.tag = "select" →
      (∀ c, c.tag ≠ "option" → (e.append c).selectedIndex? = e.selectedIndex?) ∧
      ((∃ d ∈ e.children, d.MarkedOption) →
        ∀ cs : List Element, (cs.foldl append e).selectedIndex? = e.selectedIndex?) ∧
      ((∀ d ∈ e.children, ¬ d.MarkedOption) → ∀ c, c.tag = "option" →
        (c.MarkedOption → (e.append c).selectedIndex? = some e.options.length) ∧
        (¬ c.MarkedOption → (e.append c).selectedIndex? = some 0))) := by
  refine ⟨selectedIndex?_eq_none_iff, fun _ => selectedIndex?_eq_some_iff,
    fun _ => selectedIndex?_lt, ?_⟩
  intro hs
  refine ⟨fun _ hc => selectedIndex?_append_other hc,
    fun hm => selectedIndex?_foldl_append hs hm, ?_⟩
  intro hno c hc
  have happend := selectedIndex?_append_option hs hno hc
  have hoption : c.isOption = true := beq_iff_eq.2 hc
  constructor
  · intro hm
    rw [markedOption_iff, hoption, Bool.true_and] at hm
    rw [happend, if_pos hm]
  · intro hm
    rw [markedOption_iff, hoption, Bool.true_and] at hm
    rw [happend, if_neg hm]

/-- A rule and a group with a marked option inside stand between options without marks, of which the
first is selected. A marked option that is added is selected as the third one, and remains so when
more options are added. -/
theorem marks_select_position_between_rules :
    let rule : Element := { tag := "hr" }
    let option : Element := { tag := "option" }
    let marked : Element := { tag := "option", attributes := ⟨[("selected", "no")]⟩ }
    let group : Element := { tag := "optgroup", children := [marked] }
    let e : Element := { tag := "select", children := [rule, option, group, option] }
    e.selectedIndex? = some 0 ∧ (e.append group).selectedIndex? = some 0 ∧
      (e.append option).selectedIndex? = some 0 ∧ (e.append marked).selectedIndex? = some 2 ∧
      ([rule, option, marked].foldl append (e.append marked)).selectedIndex? = some 2 ∧
      rule.selectedIndex? = none := by
  intro rule option marked group e
  obtain ⟨-, hsome, -, hgrow⟩ := marks_select_position e
  obtain ⟨hother, -, hfirst⟩ := hgrow rfl
  have hmarked : marked.MarkedOption := ⟨rfl, "no", rfl⟩
  have hplain : ¬ option.MarkedOption := fun ⟨_, _, hv⟩ => nomatch hv
  have hno : ∀ d ∈ e.children, ¬ d.MarkedOption := by
    simp only [e, List.forall_mem_cons]
    refine ⟨?_, hplain, ?_, hplain, nofun⟩
    · exact fun ⟨htag, _⟩ => absurd htag (by decide)
    · exact fun ⟨htag, _⟩ => absurd htag (by decide)
  have hzero : e.selectedIndex? = some 0 :=
    (hsome 0).2 ⟨⟨rfl, option, by simp [e], rfl⟩, .unmarked hno⟩
  have htwo : (e.append marked).selectedIndex? = some 2 := (hfirst hno marked rfl).1 hmarked
  obtain ⟨-, -, -, hgrow'⟩ := marks_select_position (e.append marked)
  obtain ⟨-, hstays, -⟩ := hgrow' rfl
  refine ⟨hzero, (hother group (by decide)).trans hzero, (hfirst hno option rfl).2 hplain, htwo,
    ?_, ?_⟩
  · rw [hstays ⟨marked, by simp [append], hmarked⟩, htwo]
  · exact (marks_select_position rule).1.2 (.inl (by decide))

end Element
end ThemeMenu
