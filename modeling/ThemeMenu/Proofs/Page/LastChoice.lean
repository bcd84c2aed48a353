import ThemeMenu.Proofs.Chooser.Tidy
import ThemeMenu.Proofs.Tree.Alike

/-!
# ThemeMenu.Proofs.Page.LastChoice

Options of one select chosen one after the other. A choice takes all marks away and sets one, so the
last choice alone decides which marks there are; what the choices before it leave behind is the
place of the mark among the attributes of the option.

* `Document.chooseAll`: a run of choices.
* `Document.ReadsAlike`: documents that no reading tells apart.
* `chooseAll_of_leadsTo`: a run of choices is one change of the select.
* `last_choice_wins`: a run compared with its last choice alone.
-/

namespace ThemeMenu

namespace Element

/-- An element in which options are chosen one after the other. -/
def chooseEach (e : Element) (indices : List Nat) : Element :=
  indices.foldl (fun e i => e.choose i) e

variable {e : Element}

theorem chooseEach_concat (e : Element) (indices : List Nat) (j : Nat) :
    e.chooseEach (indices ++ [j]) = (e.chooseEach indices).choose j :=
  List.foldl_append

theorem unmarked_chooseEach (e : Element) (indices : List Nat) :
    (e.chooseEach indices).unmarked = e.unmarked := by
  induction indices generalizing e with
  | nil => rfl
  | cons i indices ih =>
    calc ((e.choose i).chooseEach indices).unmarked
      _ = (e.choose i).unmarked := ih (e.choose i)
      _ = e.unmarked := unmarked_choose i e

theorem Tidy.chooseEach (h : e.Tidy) (indices : List Nat) : (e.chooseEach indices).Tidy := by
  induction indices generalizing e with
  | nil => exact h
  | cons i indices ih => exact ih (h.choose i)

end Element

namespace Document

/-- Chooses options of one select one after the other; the first failure ends it. -/
def chooseAll (d : Document) (id : String) : List Nat → Step Document PageError Unit
  | [] => ⟨.ok (), d, []⟩
  | i :: indices => (d.choose id i).andThen fun _ q => q.chooseAll id indices

/-- No reading tells the documents apart, the order of attributes aside. -/
structure ReadsAlike (p q : Document) : Prop where
  find : ∀ id, Option.Rel Element.Alike (p.find? id) (q.find? id)
  read : ∀ id name, Page.getAttribute p id name = Page.getAttribute q id name
  children : ∀ id, (p.childrenAt id).map List.length = (q.childrenAt id).map List.length
  index : ∀ id, (p.find? id).map Element.selectedIndex? = (q.find? id).map Element.selectedIndex?

variable {d p q : Document} {id : String} {a : Address} {n : Element}

theorem tidy_of_find? (h : d.body.Tidy) (hn : d.find? id = some n) : n.Tidy := by
  rw [find?, Element.find?_eq_at?_locate?] at hn
  obtain ⟨a, -, hat⟩ := Option.bind_eq_some_iff.1 hn
  exact h.at? hat

theorem find?_alike (h : Element.Alike p.body q.body) (ht : p.body.Tidy) (id : String) :
    (p.find? id = none ∧ q.find? id = none) ∨
      ∃ m n, p.find? id = some m ∧ q.find? id = some n ∧ m.Alike n ∧ m.Tidy := by
  have hrel : Option.Rel Element.Alike (p.find? id) (q.find? id) := Element.Alike.find? id h
  have htidy : ∀ m, p.find? id = some m → m.Tidy := fun _ hm => tidy_of_find? ht hm
  generalize p.find? id = x, q.find? id = y at hrel htidy ⊢
  cases hrel with
  | none => exact .inl ⟨rfl, rfl⟩
  | some hmn => exact .inr ⟨_, _, rfl, rfl, hmn, htidy _ rfl⟩

/-- What an id finds is alike in both documents, and each reading looks at that alone. -/
theorem readsAlike_of_alike (h : Element.Alike p.body q.body) (ht : p.body.Tidy) :
    ReadsAlike p q where
  find := fun id => Element.Alike.find? id h
  read := by
    intro id name
    obtain ⟨hp, hq⟩ | ⟨m, n, hp, hq, hmn, hm⟩ := find?_alike h ht id
    · rw [getAttribute_of_find?_none name hp, getAttribute_of_find?_none name hq]
    · rw [getAttribute_of_find? name hp, getAttribute_of_find? name hq,
        hmn.attribute? (Element.tidy_iff.1 hm).1]
  children := by
    intro id
    obtain ⟨hp, hq⟩ | ⟨m, n, hp, hq, hmn, -⟩ := find?_alike h ht id
    · rw [childrenAt, childrenAt, hp, hq]
    · rw [childrenAt, childrenAt, hp, hq]
      simp only [Except.map, hmn.length_children]
  index := by
    intro id
    obtain ⟨hp, hq⟩ | ⟨m, n, hp, hq, hmn, hm⟩ := find?_alike h ht id
    · rw [hp, hq]
    · rw [hp, hq, Option.map_some, Option.map_some, hmn.selectedIndex? hm]

/-- The select stays where it is and keeps its options, so each choice finds what the first one
found. -/
theorem chooseAll_of_leadsTo {indices : List Nat} (h : d.LeadsTo id a n) (hs : n.isSelect = true)
    (hi : ∀ i ∈ indices, i < n.options.length) :
    d.chooseAll id indices
      = ⟨.ok (), ⟨d.body.modifyAt (·.chooseEach indices) a⟩, indices.map (choiceLine id)⟩ := by
  induction indices generalizing d n with
  | nil =>
    have hsame : d.body.modifyAt (fun e => e) a = d.body := Element.modifyAt_id a d.body
    show (⟨.ok (), d, []⟩ : Step Document PageError Unit)
      = ⟨.ok (), ⟨d.body.modifyAt (fun e => e) a⟩, []⟩
    rw [hsame]
  | cons i indices ih =>
    obtain ⟨hfirst, hrest⟩ := List.forall_mem_cons.1 hi
    have hrest' : ∀ k ∈ indices, k < (n.choose i).options.length := by
      intro k hk
      rw [Element.length_options_choose]
      exact hrest k hk
    have hrun := ih (leadsTo_chooseAt h i) hs hrest'
    rw [chooseAt, Element.modifyAt_modifyAt] at hrun
    rw [chooseAll, choose_of_leadsTo h hs hfirst, Step.andThen_ok, chooseAt, hrun]
    rfl

/-- **The last choice wins.** Choices of valid options of one select, one after the other, are all
taken, and no reading tells the result from that of the last choice alone. After one other choice
the documents are even equal, unless the mark of the option had to leave a place that was not the
last. -/
theorem last_choice_wins (d : Document) (id : String) (n o : Element) (indices : List Nat) (j : Nat)
    (hd : d.Made) (hn : d.find? id = some n) (hs : n.isSelect = true)
    (hi : ∀ i ∈ indices, i < n.options.length) (ho : n.options[j]? = some o) :
    ∃ q, d.choose id j = ⟨.ok j, q, [choiceLine id j]⟩ ∧
      (∃ p, d.chooseAll id (indices ++ [j])
          = ⟨.ok (), p, (indices ++ [j]).map (choiceLine id)⟩ ∧ ReadsAlike p q) ∧
      ∀ i < n.options.length, ∃ p,
        d.chooseAll id [i, j] = ⟨.ok (), p, [choiceLine id i, choiceLine id j]⟩ ∧
        (p = q ↔ i = j ∨ o.hasAttribute "selected" = false ∨
          o.attributes.names.getLast? = some "selected") := by
  obtain ⟨a, ha⟩ := exists_locate? (Option.isSome_iff_exists.2 ⟨n, hn⟩)
  have hl : d.LeadsTo id a n := ⟨ha, hn⟩
  have hat : d.body.at? a = some n := (leadsTo_iff.1 hl).2
  have hnt : n.Tidy := tidy_of_find? hd.tidy hn
  have hj : j < n.options.length := (List.getElem?_eq_some_iff.1 ho).1
  refine ⟨d.chooseAt a j, choose_of_leadsTo hl hs hj, ?_, ?_⟩
  · have hvalid : ∀ i ∈ indices ++ [j], i < n.options.length := by
      intro i hmem
      rcases List.mem_append.1 hmem with hmem | hmem
      · exact hi i hmem
      · rw [List.mem_singleton.1 hmem]
        exact hj
    refine ⟨_, chooseAll_of_leadsTo hl hs hvalid, readsAlike_of_alike ?_ ?_⟩
    · apply Element.alike_modifyAt
      intro m hm
      rw [hat] at hm
      cases hm
      rw [Element.chooseEach_concat]
      exact Element.alike_choose (Element.unmarked_chooseEach n indices)
        (hnt.chooseEach indices) hnt j
    · exact hd.tidy.modifyAt (fun m hm => hm.chooseEach _) a
  · intro i hlt
    have hvalid : ∀ k ∈ [i, j], k < n.options.length := by
      simp [hlt, hj]
    have hot : o.Tidy := by
      have hmem : o ∈ n.children := List.mem_of_mem_filter (List.mem_of_getElem? ho)
      exact (Element.tidy_iff.1 hnt).2 o hmem
    refine ⟨_, chooseAll_of_leadsTo hl hs hvalid, ?_⟩
    have hsame := Element.choose_choose_eq_iff (i := i) ho (Element.tidy_iff.1 hot).1
    rw [chooseAt, mk.injEq, Element.modifyAt_eq_iff hat]
    exact hsame

/-- The first of two options has its mark before its class. Going to the other option and back puts
the mark behind the class. -/
theorem last_choice_wins_moved :
    let light : Element :=
      (Element.setAttribute { tag := "option" } "selected" "").setAttribute "class" "a"
    let select : Element :=
      (Element.append { tag := "select", id := some "s" } light).append { tag := "option" }
    let d := Document.ofElements [select]
    ∃ p q, d.chooseAll "s" [1, 0] = ⟨.ok (), p, [choiceLine "s" 1, choiceLine "s" 0]⟩ ∧
      d.choose "s" 0 = ⟨.ok 0, q, [choiceLine "s" 0]⟩ ∧ p ≠ q ∧
      (∃ p', d.chooseAll "s" [0, 1, 1, 0] = ⟨.ok (), p', [0, 1, 1, 0].map (choiceLine "s")⟩ ∧
        ReadsAlike p' q) ∧
      (p.find? "s").bind Element.selectedIndex? = some 0 := by
  intro light select d
  have hoption : Element.Made { tag := "option" } := .new "option"
  have hlight : light.Made := (hoption.setAttribute "selected" "").setAttribute "class" "a"
  have hempty : Element.Made { tag := "select", id := some "s" } :=
    (Element.Made.new "select").withId "s"
  have hselect : select.Made := (hempty.append hlight).append hoption
  have hd : d.Made := Document.Made.new.withElement hselect
  obtain ⟨q, hq, halike, hequal⟩ :=
    last_choice_wins d "s" select light [0, 1, 1] 0 hd rfl rfl (by decide) rfl
  obtain ⟨p, hp, hiff⟩ := hequal 1 (by decide)
  refine ⟨p, q, hp, hq, ?_, halike, ?_⟩
  · rw [Ne, hiff]
    decide
  · cases hp
    rfl

end Document
end ThemeMenu
