import Mathlib.Data.List.Induction
import Mathlib.Data.List.Nodup
import ThemeMenu.Proofs.Tree.Alike

/-!
# ThemeMenu.Proofs.Tree.Arrival

Attributes as the record of the edits that made them. The value of a name is the one written last,
unless the name was erased after that. A name that has no value arrives when it is written, and as
long as it is not erased it keeps its place among the others, however often it is written again. So
the names stand in the order in which each of them arrived last.

* `AttributeEdit`, `Element.afterEdits`: the edits, and runs of them.
* `lastNaming?`, `Present`: the edit that decides about a name.
* `ArrivedAt`, `Before`: when a name arrived last, and the order of names.
* `Recalls`: the attributes that a history leaves.
* `Recalls.put`, `Recalls.erase`, `recalls_afterEdits`: one edit and a run.
* `attributes_recall_history`: all reads, the stored order, and when two elements are equal.
-/

namespace ThemeMenu

inductive AttributeEdit where
  | put (name value : String)
  | erase (name : String)
deriving DecidableEq, Repr

namespace AttributeEdit

def name : AttributeEdit → String
  | .put name _ => name
  | .erase name => name

def on : AttributeEdit → Element → Element
  | .put name value => (·.setAttribute name value)
  | .erase name => (·.removeAttribute name)

end AttributeEdit

def Element.afterEdits (e : Element) (history : List AttributeEdit) : Element :=
  history.foldl (fun e c => c.on e) e

def lastNaming? (n : String) (history : List AttributeEdit) : Option AttributeEdit :=
  history.reverse.find? fun c => c.name == n

/-- The last edit that names `n` writes it. -/
def Present (history : List AttributeEdit) (n : String) : Prop :=
  ∃ v, lastNaming? n history = some (.put n v)

/-- The edit at `i` writes `n`, which was not there. -/
def TurnsUp (history : List AttributeEdit) (n : String) (i : Nat) : Prop :=
  (∃ v, history[i]? = some (.put n v)) ∧ ¬ Present (history.take i) n

/-- The name is there, and has been there since the edit at `i`. -/
def ArrivedAt (history : List AttributeEdit) (n : String) (i : Nat) : Prop :=
  Present history n ∧ TurnsUp history n i ∧ ∀ j, TurnsUp history n j → j ≤ i

def Before (history : List AttributeEdit) (m n : String) : Prop :=
  ∃ i j, ArrivedAt history m i ∧ ArrivedAt history n j ∧ i < j

structure Recalls (history : List AttributeEdit) (a : Attributes) : Prop where
  read : ∀ n v, a.get? n = some v ↔ lastNaming? n history = some (.put n v)
  arrived : ∀ n ∈ a.names, ∃ i, ArrivedAt history n i
  order : a.names.Pairwise (Before history)

/-- The histories leave the same names with the same values, in the same order. -/
structure LeavesSame (history history' : List AttributeEdit) : Prop where
  values : ∀ n v, lastNaming? n history = some (.put n v) ↔ lastNaming? n history' = some (.put n v)
  order : ∀ m n, Before history m n ↔ Before history' m n

section History

variable {history history' : List AttributeEdit} {c : AttributeEdit} {m n v : String} {i j : Nat}

theorem lastNaming?_concat (n : String) (history : List AttributeEdit) (c : AttributeEdit) :
    lastNaming? n (history ++ [c]) = if c.name = n then some c else lastNaming? n history := by
  rw [lastNaming?, List.reverse_append, List.reverse_singleton, List.singleton_append, lastNaming?]
  by_cases h : c.name = n
  · simp [h]
  · rw [List.find?_cons_of_neg (by simpa using h), if_neg h]

theorem name_of_lastNaming? (h : lastNaming? n history = some c) : c.name = n := by
  simpa using List.find?_some h

theorem lastNaming?_eq_none_iff : lastNaming? n history = none ↔ ∀ c ∈ history, c.name ≠ n := by
  simp [lastNaming?]

theorem not_present_iff :
    ¬ Present history n ↔
      (∀ c ∈ history, c.name ≠ n) ∨ lastNaming? n history = some (.erase n) := by
  rw [Present, ← lastNaming?_eq_none_iff]
  cases hl : lastNaming? n history with
  | none => simp
  | some c =>
    have hname : c.name = n := name_of_lastNaming? hl
    cases hname
    cases c <;> simp [AttributeEdit.name]

theorem present_concat_of_ne (h : c.name ≠ n) :
    Present (history ++ [c]) n ↔ Present history n := by
  simp only [Present, lastNaming?_concat, h, if_false]

theorem present_concat_put (history : List AttributeEdit) (n v : String) :
    Present (history ++ [.put n v]) n :=
  ⟨v, by simp [lastNaming?_concat, AttributeEdit.name]⟩

/-- Writing takes no name away. -/
theorem Present.concat_put (h : Present history m) (n v : String) :
    Present (history ++ [.put n v]) m := by
  by_cases hn : n = m
  · exact hn ▸ present_concat_put history n v
  · have hne : (AttributeEdit.put n v).name ≠ m := hn
    exact (present_concat_of_ne hne).2 h

theorem TurnsUp.lt (h : TurnsUp history n i) : i < history.length := by
  obtain ⟨⟨v, hv⟩, -⟩ := h
  exact (List.getElem?_eq_some_iff.1 hv).1

theorem turnsUp_concat_iff :
    TurnsUp (history ++ [c]) n i ↔
      TurnsUp history n i ∨ i = history.length ∧ (∃ v, c = .put n v) ∧ ¬ Present history n := by
  rcases Nat.lt_trichotomy i history.length with hi | rfl | hi
  · have hne : i ≠ history.length := Nat.ne_of_lt hi
    have htake : (history ++ [c]).take i = history.take i :=
      List.take_append_of_le_length (Nat.le_of_lt hi)
    simp [TurnsUp, hne, List.getElem?_append_left hi, htake]
  · simp [TurnsUp]
  · have hne : i ≠ history.length := Nat.ne_of_gt hi
    have hno : history[i]? = none := List.getElem?_eq_none (Nat.le_of_lt hi)
    have hend : (history ++ [c])[i]? = none := by simp; omega
    simp [TurnsUp, hne, hno, hend]

/-- An edit that brings no name and takes none away moves no arrival. -/
theorem arrivedAt_concat_iff (h : Present (history ++ [c]) n ↔ Present history n) :
    ArrivedAt (history ++ [c]) n i ↔ ArrivedAt history n i := by
  have hturns : ∀ i, TurnsUp (history ++ [c]) n i ↔ TurnsUp history n i := by
    intro i
    rw [turnsUp_concat_iff, or_iff_left]
    rintro ⟨-, ⟨v, rfl⟩, hno⟩
    exact hno (h.1 (present_concat_put history n v))
  simp only [ArrivedAt, hturns, h]

theorem arrivedAt_concat_put (h : ¬ Present history n) (v : String) :
    ArrivedAt (history ++ [.put n v]) n history.length := by
  refine ⟨present_concat_put history n v, turnsUp_concat_iff.2 (.inr ⟨rfl, ⟨v, rfl⟩, h⟩), ?_⟩
  intro j hj
  rcases turnsUp_concat_iff.1 hj with hj | ⟨rfl, -⟩
  · exact Nat.le_of_lt hj.lt
  · exact Nat.le_refl _

theorem ArrivedAt.unique (h : ArrivedAt history n i) (h' : ArrivedAt history n j) : i = j :=
  Nat.le_antisymm (h'.2.2 i h.2.1) (h.2.2 j h'.2.1)

theorem Before.asymm (h : Before history m n) : ¬ Before history n m := by
  obtain ⟨i, j, hi, hj, hij⟩ := h
  rintro ⟨j', i', hj', hi', hji⟩
  rw [hi.unique hi', hj.unique hj'] at hij
  exact Nat.lt_asymm hij hji

theorem Before.concat (h : Before history m n)
    (hm : Present (history ++ [c]) m ↔ Present history m)
    (hn : Present (history ++ [c]) n ↔ Present history n) : Before (history ++ [c]) m n := by
  obtain ⟨i, j, hi, hj, hij⟩ := h
  exact ⟨i, j, (arrivedAt_concat_iff hm).2 hi, (arrivedAt_concat_iff hn).2 hj, hij⟩

end History

/-! ## Attributes after a history -/

section Recalls

variable {history history' : List AttributeEdit} {a b : Attributes} {c : AttributeEdit}
  {m n : String}

theorem recalls_nil : Recalls [] {} where
  read n v := by simp [Attributes.get?, Attributes.value?, lastNaming?]
  arrived := nofun
  order := List.Pairwise.nil

namespace Recalls

theorem mem_names (h : Recalls history a) : n ∈ a.names ↔ Present history n := by
  rw [← Attributes.has_iff_mem_names, Attributes.has, Option.isSome_iff_exists]
  simp only [h.read, Present]

theorem nodup (h : Recalls history a) : a.names.Nodup := by
  apply h.order.imp
  rintro m n hmn rfl
  exact hmn.asymm hmn

/-- Reading after an edit: the name it is about reads what it says, the others what they did. -/
theorem read_concat (h : Recalls history a)
    (hnamed : ∀ v, b.get? c.name = some v ↔ c = .put c.name v)
    (hother : ∀ n, c.name ≠ n → b.get? n = a.get? n) (n v : String) :
    b.get? n = some v ↔ lastNaming? n (history ++ [c]) = some (.put n v) := by
  rw [lastNaming?_concat]
  by_cases hn : c.name = n
  · subst hn
    rw [hnamed, if_pos rfl, Option.some.injEq]
  · rw [hother n hn, h.read, if_neg hn]

/-- The names that an edit leaves there keep their arrivals, and with them their order. -/
theorem kept (h : Recalls history a) {ns : List String} (hs : ns.Sublist a.names)
    (hns : ∀ m ∈ ns, Present (history ++ [c]) m) :
    (∀ m ∈ ns, ∃ i < history.length, ArrivedAt (history ++ [c]) m i) ∧
      ns.Pairwise (Before (history ++ [c])) := by
  have hsame : ∀ m ∈ ns, (Present (history ++ [c]) m ↔ Present history m) := fun m hm =>
    iff_of_true (hns m hm) (h.mem_names.1 (hs.subset hm))
  constructor
  · intro m hm
    obtain ⟨i, hi⟩ := h.arrived m (hs.subset hm)
    exact ⟨i, hi.2.1.lt, (arrivedAt_concat_iff (hsame m hm)).2 hi⟩
  · apply (h.order.sublist hs).imp_of_mem
    intro m n hm hn hmn
    exact hmn.concat (hsame m hm) (hsame n hn)

/-- A name that comes in stands behind all that are there. -/
theorem joined (h : Recalls history a) (hn : n ∉ a.names) (v : String) :
    (∀ m ∈ a.names ++ [n], ∃ i, ArrivedAt (history ++ [.put n v]) m i) ∧
      (a.names ++ [n]).Pairwise (Before (history ++ [.put n v])) := by
  obtain ⟨harrived, horder⟩ := h.kept (List.Sublist.refl _)
    fun m hm => (h.mem_names.1 hm).concat_put n v
  have hnew : ArrivedAt (history ++ [.put n v]) n history.length :=
    arrivedAt_concat_put (fun hp => hn (h.mem_names.2 hp)) v
  have hlast : ∀ m ∈ a.names, Before (history ++ [.put n v]) m n := by
    intro m hm
    obtain ⟨i, hlt, hi⟩ := harrived m hm
    exact ⟨i, history.length, hi, hnew, hlt⟩
  constructor
  · rw [List.forall_mem_append, List.forall_mem_singleton]
    exact ⟨fun m hm => (harrived m hm).imp fun _ hi => hi.2, _, hnew⟩
  · rw [List.pairwise_append]
    refine ⟨horder, List.pairwise_singleton _ _, ?_⟩
    simpa using hlast

theorem put (h : Recalls history a) (n v : String) :
    Recalls (history ++ [.put n v]) (a.put n v) := by
  have hread := h.read_concat (c := .put n v) (b := a.put n v)
    (fun w => by simp [Attributes.get?_put, AttributeEdit.name])
    (fun m hm => (Attributes.get?_put a n v m).trans (if_neg (Ne.symm hm)))
  by_cases hn : n ∈ a.names
  · have hnames : (a.put n v).names = a.names := by rw [Attributes.names_put, if_pos hn]
    obtain ⟨harrived, horder⟩ := h.kept (List.Sublist.refl _)
      fun m hm => (h.mem_names.1 hm).concat_put n v
    rw [← hnames] at harrived horder
    exact ⟨hread, fun m hm => (harrived m hm).imp fun _ hi => hi.2, horder⟩
  · have hnames : (a.put n v).names = a.names ++ [n] := by rw [Attributes.names_put, if_neg hn]
    obtain ⟨harrived, horder⟩ := h.joined hn v
    rw [← hnames] at harrived horder
    exact ⟨hread, harrived, horder⟩

theorem erase (h : Recalls history a) (n : String) :
    Recalls (history ++ [.erase n]) (a.erase n) := by
  have hread := h.read_concat (c := .erase n) (b := a.erase n)
    (fun w => by simp [Attributes.get?_erase, AttributeEdit.name])
    (fun m hm => (Attributes.get?_erase a n m).trans (if_neg (Ne.symm hm)))
  have hpresent : ∀ m ∈ a.names.filter (fun m => decide (m ≠ n)),
      Present (history ++ [.erase n]) m := by
    intro m hm
    obtain ⟨hm, hne⟩ := List.mem_filter.1 hm
    have hne : (AttributeEdit.erase n).name ≠ m := Ne.symm (of_decide_eq_true hne)
    exact (present_concat_of_ne hne).2 (h.mem_names.1 hm)
  obtain ⟨harrived, horder⟩ := h.kept List.filter_sublist hpresent
  rw [← Attributes.names_erase] at harrived horder
  exact ⟨hread, fun m hm => (harrived m hm).imp fun _ hi => hi.2, horder⟩

/-- Names that one list holds in its order are in that order in every history of the list. -/
theorem before (h : Recalls history a) (h' : Recalls history' a) (hmn : Before history m n) :
    Before history' m n := by
  obtain ⟨i, j, hi, hj, -⟩ := id hmn
  obtain ⟨k, hk, rfl⟩ := List.getElem_of_mem (h.mem_names.2 hi.1)
  obtain ⟨l, hl, rfl⟩ := List.getElem_of_mem (h.mem_names.2 hj.1)
  rcases Nat.lt_trichotomy k l with hkl | rfl | hlk
  · exact List.pairwise_iff_getElem.1 h'.order k l hk hl hkl
  · exact absurd hmn hmn.asymm
  · exact absurd (List.pairwise_iff_getElem.1 h.order l k hl hk hlk) hmn.asymm

theorem mem_pairs (h : Recalls history a) (n v : String) :
    (n, v) ∈ a.pairs ↔ lastNaming? n history = some (.put n v) := by
  rw [← Attributes.get?_eq_some_iff h.nodup, h.read]

theorem eq_iff (h : Recalls history a) (h' : Recalls history' b) :
    a = b ↔ LeavesSame history history' := by
  constructor
  · rintro rfl
    refine ⟨?_, fun m n => ⟨h.before h', h'.before h⟩⟩
    intro n v
    rw [← h.read, ← h'.read]
  · intro hsame
    have hperm : a.pairs.Perm b.pairs := by
      rw [List.perm_ext_iff_of_nodup (List.Nodup.of_map _ h.nodup) (List.Nodup.of_map _ h'.nodup)]
      rintro ⟨n, v⟩
      rw [h.mem_pairs, h'.mem_pairs]
      exact hsame.values n v
    have hb : b.pairs.Pairwise fun p q => Before history p.1 q.1 :=
      (List.pairwise_map.1 h'.order).imp fun hpq => (hsame.order _ _).2 hpq
    have hpairs : a.pairs = b.pairs :=
      hperm.eq_of_pairwise (fun p q _ _ hpq hqp => absurd hqp hpq.asymm)
        (List.pairwise_map.1 h.order) hb
    cases a
    cases b
    exact congrArg Attributes.mk hpairs

end Recalls

end Recalls

/-! ## Elements -/

namespace Element

theorem afterEdits_concat (e : Element) (history : List AttributeEdit) (c : AttributeEdit) :
    e.afterEdits (history ++ [c]) = c.on (e.afterEdits history) := by
  simp [afterEdits]

theorem recalls_afterEdits {e : Element} (he : e.attributes = {}) (history : List AttributeEdit) :
    Recalls history (e.afterEdits history).attributes := by
  induction history using List.reverseRecOn with
  | nil =>
    show Recalls [] e.attributes
    rw [he]
    exact recalls_nil
  | append_singleton history c ih =>
    rw [afterEdits_concat]
    cases c with
    | put n v => exact ih.put n v
    | erase n => exact ih.erase n

/-- Edits change attributes and nothing else. -/
theorem others_afterEdits (e : Element) (history : List AttributeEdit) :
    { e.afterEdits history with attributes := {} } = { e with attributes := {} } := by
  induction history using List.reverseRecOn with
  | nil => rfl
  | append_singleton history c ih =>
    rw [afterEdits_concat, ← ih]
    cases c <;> rfl

theorem eq_iff_attributes {e e' : Element}
    (h : { e with attributes := {} } = { e' with attributes := {} }) :
    e = e' ↔ e.attributes = e'.attributes := by
  cases e
  cases e'
  simp_all

/-- **Attributes recall their history.** On an element that starts without attributes, a name has
the value of the last edit that names it, and none if that edit erased it or there is no such edit.
The pairs are those of the names that are there, in the order in which each of them arrived last.
Elements that are the same otherwise are equal exactly when their histories leave the same names and
values in this order. -/
theorem attributes_recall_history (e : Element) (he : e.attributes = {})
    (history : List AttributeEdit) :
    Recalls history (e.afterEdits history).attributes ∧
    (∀ n, (e.afterEdits history).attribute? n = none ↔
      (∀ c ∈ history, c.name ≠ n) ∨ lastNaming? n history = some (.erase n)) ∧
    (∀ n v, (n, v) ∈ (e.afterEdits history).attributes.pairs ↔
      lastNaming? n history = some (.put n v)) ∧
    ∀ (e' : Element) (history' : List AttributeEdit), e'.attributes = {} → e'.tag = e.tag →
      e'.id = e.id → e'.text = e.text → e'.children = e.children →
      (e.afterEdits history = e'.afterEdits history' ↔ LeavesSame history history') := by
  have h := recalls_afterEdits he history
  refine ⟨h, ?_, h.mem_pairs, ?_⟩
  · intro n
    rw [← not_present_iff, Present, attribute?, Option.eq_none_iff_forall_ne_some, not_exists]
    simp only [ne_eq, h.read]
  · intro e' history' he' htag hid htext hchildren
    have hothers : { e with attributes := {} } = { e' with attributes := {} } := by
      rw [htag, hid, htext, hchildren]
    rw [← h.eq_iff (recalls_afterEdits he' history')]
    apply eq_iff_attributes
    rw [others_afterEdits, others_afterEdits, hothers]

/-- A name that is erased and written again goes behind one that came later; erased names and values
that were overwritten leave nothing. -/
theorem attributes_recall_history_moved :
    let e : Element := { tag := "p" }
    let history : List AttributeEdit :=
      [.put "a" "1", .put "b" "2", .put "a" "3", .erase "a", .put "b" "5", .put "a" "4"]
    (e.afterEdits history).attributes.pairs = [("b", "5"), ("a", "4")] ∧ Before history "b" "a" ∧
      LeavesSame history [.put "b" "5", .put "a" "4"] ∧
      ¬ LeavesSame history [.put "a" "4", .put "b" "5"] := by
  intro e history
  obtain ⟨hrecalls, -, -, hsame⟩ := attributes_recall_history e rfl history
  have horder : ["b", "a"].Pairwise (Before history) := hrecalls.order
  refine ⟨rfl, List.rel_of_pairwise_cons horder (by simp), ?_, ?_⟩
  · exact (hsame e _ rfl rfl rfl rfl rfl).1 (by decide)
  · rw [← hsame e _ rfl rfl rfl rfl rfl]
    decide

end Element
end ThemeMenu
