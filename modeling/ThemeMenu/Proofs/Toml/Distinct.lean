import ThemeMenu.Toml.Document

/-!
# ThemeMenu.Proofs.Toml.Distinct

In the table of a document no key stands twice, and the same holds of every table inside it. So a
key has at most one value, whatever the order in which a reader goes through the fields.

Tables come from three places: fields of inline tables, dotted keys and headers. All of them write
with `insertNew?`, `alter?` and `remove`, which keep keys apart.

* `Toml.Keyed`: a table with distinct keys, and what holds of its values.
* `Toml.Value.Distinct`: the same for every table in a value.
* `Toml.keyed_of_document?`: the result for documents.
-/

namespace ThemeMenu
namespace Toml

section Tables

variable {β γ : Type} {P : β → Prop} {key : String} {fs gs : List (String × β)}

theorem lookup?_eq_none_iff : lookup? key fs = none ↔ key ∉ fs.map Prod.fst := by
  induction fs with
  | nil => simp [lookup?]
  | cons f fs ih =>
    by_cases h : f.1 = key
    · simp [lookup?, h]
    · simp [lookup?, h, ih, Ne.symm h]

theorem mem_of_lookup? {v : β} (h : lookup? key fs = some v) : (key, v) ∈ fs := by
  induction fs with
  | nil => simp [lookup?] at h
  | cons f fs ih =>
    by_cases hk : f.1 = key
    · simp only [lookup?, hk, if_true, Option.some.injEq] at h
      subst h hk
      exact List.mem_cons_self
    · simp only [lookup?, hk, if_false] at h
      exact List.mem_cons_of_mem _ (ih h)

theorem lookup?_of_mem {v : β} (hd : (fs.map Prod.fst).Nodup) (h : (key, v) ∈ fs) :
    lookup? key fs = some v := by
  induction fs with
  | nil => simp at h
  | cons f fs ih =>
    obtain ⟨hf, hd⟩ := List.nodup_cons.mp hd
    rcases List.mem_cons.mp h with rfl | h
    · simp [lookup?]
    · have hk : f.1 ≠ key := by
        rintro rfl
        exact hf (List.mem_map.mpr ⟨_, h, rfl⟩)
      simp [lookup?, hk, ih hd h]

theorem key_not_mem_remove : key ∉ (remove key fs).map Prod.fst := by
  intro h
  obtain ⟨f, hf, rfl⟩ := List.mem_map.mp h
  simpa using (List.mem_filter.mp hf).2

theorem mem_keys_of_alter? {f : Option β → Option β} {k : String} (h : alter? key f fs = some gs)
    (hk : k ∈ gs.map Prod.fst) : k = key ∨ k ∈ fs.map Prod.fst := by
  induction fs generalizing gs with
  | nil =>
    simp only [alter?] at h
    split at h
    · cases h
      exact .inl (by simpa using hk)
    · cases h
  | cons g fs ih =>
    simp only [alter?] at h
    split at h
    · split at h
      · cases h
        exact .inr hk
      · cases h
    · split at h
      · rename_i gs hgs
        cases h
        rcases List.mem_cons.mp hk with rfl | hk
        · exact .inr List.mem_cons_self
        · exact (ih hgs hk).imp id (List.mem_cons_of_mem _)
      · cases h

/-- A table in which no key stands twice, with `P` of every value. -/
structure Keyed (P : β → Prop) (fs : List (String × β)) : Prop where
  distinct : (fs.map Prod.fst).Nodup
  values : ∀ f ∈ fs, P f.2

namespace Keyed

theorem nil : Keyed P [] := ⟨by simp, by simp⟩

theorem of_lookup? {v : β} (h : Keyed P fs) (hv : lookup? key fs = some v) : P v :=
  h.values _ (mem_of_lookup? hv)

theorem snoc {v : β} (h : Keyed P fs) (hk : key ∉ fs.map Prod.fst) (hv : P v) :
    Keyed P (fs ++ [(key, v)]) := by
  constructor
  · rw [List.map_append, List.nodup_append]
    refine ⟨h.distinct, by simp, ?_⟩
    intro a ha b hb hab
    simp only [List.map_cons, List.map_nil, List.mem_singleton] at hb
    exact hk (hb ▸ hab ▸ ha)
  · intro f hf
    rcases List.mem_append.mp hf with hf | hf
    · exact h.values f hf
    · rw [List.mem_singleton.mp hf]
      exact hv

theorem insertNew? {v : β} (h : Keyed P fs) (hv : P v) (hi : insertNew? key v fs = some gs) :
    Keyed P gs := by
  simp only [Toml.insertNew?] at hi
  split at hi
  · rename_i hn
    cases hi
    exact h.snoc (lookup?_eq_none_iff.mp hn) hv
  · cases hi

theorem remove (h : Keyed P fs) : Keyed P (remove key fs) where
  distinct := h.distinct.sublist (List.filter_sublist.map _)
  values f hf := h.values f (List.mem_filter.mp hf).1

theorem alter? {f : Option β → Option β} (h : Keyed P fs)
    (hf : ∀ found v, (∀ w, found = some w → P w) → f found = some v → P v)
    (ha : alter? key f fs = some gs) : Keyed P gs := by
  induction fs generalizing gs with
  | nil =>
    simp only [Toml.alter?] at ha
    split at ha
    · rename_i v hv
      cases ha
      exact ⟨by simp, by simpa using hf none v (by simp) hv⟩
    · cases ha
  | cons g fs ih =>
    obtain ⟨hg, hd⟩ := List.nodup_cons.mp h.distinct
    have hfs : Keyed P fs := ⟨hd, fun e he => h.values e (List.mem_cons_of_mem _ he)⟩
    have hgv : P g.2 := h.values g List.mem_cons_self
    simp only [Toml.alter?] at ha
    split at ha
    · split at ha
      · rename_i v hv
        cases ha
        refine ⟨h.distinct, ?_⟩
        intro e he
        rcases List.mem_cons.mp he with rfl | he
        · exact hf (some g.2) v (by rintro w ⟨⟩; exact hgv) hv
        · exact hfs.values e he
      · cases ha
    · rename_i hne
      split at ha
      · rename_i gs hgs
        cases ha
        have hgs' := ih hfs hgs
        -- the rest gains no key but `key`, which is not the key of `g`
        refine ⟨List.nodup_cons.mpr ⟨?_, hgs'.distinct⟩, ?_⟩
        · intro hm
          exact (mem_keys_of_alter? hgs hm).elim hne hg
        · intro e he
          rcases List.mem_cons.mp he with rfl | he
          · exact hgv
          · exact hgs'.values e he
      · cases ha

theorem map {Q : γ → Prop} {g : β → γ} (h : Keyed P fs) (hg : ∀ f ∈ fs, Q (g f.2)) :
    Keyed Q (fs.map fun f => (f.1, g f.2)) where
  distinct := by
    simpa [List.map_map, Function.comp_def] using h.distinct
  values e he := by
    obtain ⟨f, hf, rfl⟩ := List.mem_map.mp he
    exact hg f hf

end Keyed

/-- What a run that may fail keeps. -/
theorem foldlM_keeps {σ α : Type} {step : σ → α → Option σ} {I : σ → Prop} {as : List α} {s t : σ}
    (hs : I s) (hstep : ∀ s a s', a ∈ as → I s → step s a = some s' → I s')
    (h : as.foldlM step s = some t) : I t := by
  induction as generalizing s with
  | nil =>
    cases h
    exact hs
  | cons a as ih =>
    rw [List.foldlM_cons] at h
    obtain ⟨s', hs', h⟩ := Option.bind_eq_some_iff.mp h
    refine ih (hstep s a s' List.mem_cons_self hs hs') ?_ h
    intro s a s' ha
    exact hstep s a s' (List.mem_cons_of_mem _ ha)

end Tables

/-! ## Values -/

/-- In every table of a value the keys are distinct. -/
inductive Value.Distinct : Value → Prop where
  | string {s : String} : Distinct (.string s)
  | integer {n : Int} : Distinct (.integer n)
  | float {x : Binary64} : Distinct (.float x)
  | boolean {b : Bool} : Distinct (.boolean b)
  | moment : Distinct .moment
  | array {vs : List Value} (items : ∀ v ∈ vs, v.Distinct) : Distinct (.array vs)
  | table {fs : List (String × Value)} (keys : (fs.map Prod.fst).Nodup)
      (values : ∀ f ∈ fs, f.2.Distinct) : Distinct (.table fs)

theorem Keyed.toValue {fs : List (String × Value)} (h : Keyed Value.Distinct fs) :
    (Value.table fs).Distinct :=
  .table h.distinct h.values

theorem Value.Distinct.keyed {fs : List (String × Value)} (h : (Value.table fs).Distinct) :
    Keyed Value.Distinct fs := by
  cases h with
  | table keys values => exact ⟨keys, values⟩

/-! ## Inline tables -/

inductive Inline.Distinct : Inline → Prop where
  | value {v : Value} (h : v.Distinct) : Distinct (.value v)
  | dotted {fs : List (String × Inline)} (keys : (fs.map Prod.fst).Nodup)
      (values : ∀ f ∈ fs, f.2.Distinct) : Distinct (.dotted fs)

theorem inlineFields_eq_map (fs : List (String × Inline)) :
    inlineFields fs = fs.map fun f => (f.1, f.2.toValue) := by
  induction fs with
  | nil => rfl
  | cons f fs ih => rw [inlineFields, ih, List.map_cons]

theorem Inline.Distinct.toValue {i : Inline} (h : i.Distinct) : i.toValue.Distinct := by
  -- on the derivation, which has a hypothesis for every field where the type has a list of them
  induction h with
  | value h => exact h
  | dotted keys values ih =>
    rw [Inline.toValue, inlineFields_eq_map]
    exact (Keyed.map ⟨keys, values⟩ ih).toValue

theorem keyed_insertInline? {v : Value} (hv : v.Distinct) {ps : List String} {key : String}
    {fs gs : List (String × Inline)} (h : Keyed Inline.Distinct fs)
    (hi : insertInline? v ps key fs = some gs) : Keyed Inline.Distinct gs := by
  induction ps generalizing fs gs with
  | nil => exact h.insertNew? (.value hv) hi
  | cons p ps ih =>
    refine h.alter? ?_ hi
    intro found i hfound hfi
    split at hfi
    · obtain ⟨sub, hsub, rfl⟩ := Option.map_eq_some_iff.mp hfi
      have hk := ih .nil hsub
      exact .dotted hk.distinct hk.values
    · obtain ⟨sub, hsub, rfl⟩ := Option.map_eq_some_iff.mp hfi
      cases hfound _ rfl with
      | dotted keys values =>
        have hk := ih ⟨keys, values⟩ hsub
        exact .dotted hk.distinct hk.values
    · cases hfi

theorem keyed_of_inlineTable? {fs : List (KeyPath × Value)} {table : List (String × Value)}
    (h : ∀ f ∈ fs, f.2.Distinct) (ht : inlineTable? fs = some table) :
    Keyed Value.Distinct table := by
  simp only [inlineTable?] at ht
  split at ht
  · rename_i t hfold
    cases ht
    have hk : Keyed Inline.Distinct t :=
      foldlM_keeps .nil (fun _ f _ hf hs hi => keyed_insertInline? (h f hf) hs hi) hfold
    rw [inlineFields_eq_map]
    exact hk.map fun f hf => (hk.values f hf).toValue
  · cases ht

/-! ## Readers -/

/-- Every value that a reader answers has distinct keys. -/
def ReadsDistinct (item : Reader Value) : Prop :=
  ∀ cs v r, item cs = some (v, r) → v.Distinct

theorem word?_distinct {t : List Char} {v : Value} (h : word? t = some v) : v.Distinct := by
  simp only [word?] at h
  split at h
  · cases h
    exact .boolean
  · cases h
    exact .boolean
  · split at h
    · cases h
      exact .float
    · split at h
      · cases h
        exact .integer
      · cases h

theorem readsDistinct_token : ReadsDistinct token := by
  intro cs v r h
  simp only [token] at h
  split at h
  · split at h
    · cases h
      exact .moment
    · cases h
  · split at h
    · cases h
      exact .moment
    · split at h
      · rename_i w hw
        cases h
        exact word?_distinct hw
      · cases h

theorem readsDistinct_scalar : ReadsDistinct scalar := by
  intro cs v r h
  simp only [scalar] at h
  split at h
  · split at h
    · cases h
      exact .string
    · cases h
  · split at h
    · cases h
      exact .string
    · cases h
  · exact readsDistinct_token _ _ _ h

section

variable {item : Reader Value}

theorem distinct_of_items (hitem : ReadsDistinct item) {n : Nat} {cs r : List Char}
    {vs : List Value} (h : items item n cs = some (vs, r)) : ∀ v ∈ vs, v.Distinct := by
  induction n generalizing cs vs r with
  | zero => cases h
  | succ n ih =>
    simp only [items] at h
    split at h
    · cases h
      simp
    · split at h
      · cases h
      · rename_i v r' hv
        have hd := hitem _ _ _ hv
        split at h
        · cases h
          simpa using hd
        · split at h
          · rename_i vs' r'' hvs
            cases h
            exact List.forall_mem_cons.mpr ⟨hd, ih hvs⟩
          · cases h
        · cases h

theorem distinct_of_keyValue (hitem : ReadsDistinct item) {cs r : List Char} {f : KeyPath × Value}
    (h : keyValue item cs = some (f, r)) : f.2.Distinct := by
  simp only [keyValue] at h
  split at h
  · split at h
    · rename_i v r' hv
      cases h
      exact hitem _ _ _ hv
    · cases h
  · cases h

theorem distinct_of_moreFields (hitem : ReadsDistinct item) {n : Nat} {cs r : List Char}
    {fs : List (KeyPath × Value)} (h : moreFields item n cs = some (fs, r)) :
    ∀ f ∈ fs, f.2.Distinct := by
  induction n, cs using moreFields.induct item generalizing fs r with
  | case1 n r' =>
    simp only [moreFields] at h
    cases h
    simp
  | case2 n cs f r' hf fs' r'' hfs ih =>
    simp only [moreFields, hf, hfs] at h
    cases h
    exact List.forall_mem_cons.mpr ⟨distinct_of_keyValue hitem hf, ih hfs⟩
  | case3 n cs f r' hf hfs => simp [moreFields, hf, hfs] at h
  | case4 n cs hf => simp [moreFields, hf] at h
  | case5 n cs hclose hcomma =>
    rw [moreFields.eq_3 item n cs hclose hcomma] at h
    cases h

theorem distinct_of_fields (hitem : ReadsDistinct item) {cs r : List Char}
    {fs : List (KeyPath × Value)} (h : fields item cs = some (fs, r)) :
    ∀ f ∈ fs, f.2.Distinct := by
  simp only [fields] at h
  split at h
  · cases h
    simp
  · split at h
    · rename_i f r' hf
      split at h
      · rename_i fs' r'' hfs
        cases h
        exact List.forall_mem_cons.mpr
          ⟨distinct_of_keyValue hitem hf, distinct_of_moreFields hitem hfs⟩
      · cases h
    · cases h

end

theorem readsDistinct_value (depth : Nat) : ReadsDistinct (value depth) := by
  induction depth with
  | zero =>
    intro cs v r h
    simp only [value] at h
    exact readsDistinct_scalar _ _ _ h
  | succ depth ih =>
    intro cs v r h
    unfold value at h
    split at h
    · rename_i hd
      cases hd
      split at h
      · rename_i vs r' hvs
        cases h
        exact .array (distinct_of_items ih hvs)
      · cases h
    · rename_i hd
      cases hd
      split at h
      · rename_i fs r' hfs
        split at h
        · rename_i table ht
          cases h
          exact (keyed_of_inlineTable? (distinct_of_fields ih hfs) ht).toValue
        · cases h
      · cases h
    · exact readsDistinct_scalar _ _ _ h

/-! ## Statements -/

/-- Whatever a statement assigns has distinct keys. -/
def Statement.Distinct (s : Statement) : Prop :=
  ∀ p v, s = .assign p v → v.Distinct

theorem Statement.distinct_header (p : KeyPath) : (Statement.header p).Distinct := by
  intro _ _ h
  cases h

theorem Statement.distinct_item (p : KeyPath) : (Statement.item p).Distinct := by
  intro _ _ h
  cases h

theorem distinct_of_statement {cs r : List Char} {s : Statement}
    (h : statement cs = some (s, r)) : s.Distinct := by
  unfold statement at h
  split at h
  · split at h
    · cases h
      exact Statement.distinct_item _
    · cases h
  · split at h
    · cases h
      exact Statement.distinct_header _
    · cases h
  · split at h
    · rename_i p v r' hv
      cases h
      intro _ _ he
      cases he
      exact distinct_of_keyValue (readsDistinct_value depthLimit) hv
    · cases h

theorem distinct_of_lines? {n : Nat} {cs : List Char} {ss : List Statement}
    (h : lines? n cs = some ss) : ∀ s ∈ ss, s.Distinct := by
  induction n generalizing cs ss with
  | zero => cases h
  | succ n ih =>
    simp only [lines?] at h
    split at h
    · cases h
      simp
    · split at h
      · exact ih h
      · cases h
    · split at h
      · exact ih h
      · split at h
        · rename_i s r hs
          split at h
          · split at h
            · rename_i ss' hss
              cases h
              exact List.forall_mem_cons.mpr ⟨distinct_of_statement hs, ih hss⟩
            · cases h
          · cases h
        · cases h

/-! ## Tables under construction -/

inductive Node.Distinct : Node → Prop where
  | value {v : Value} (h : v.Distinct) : Distinct (.value v)
  | table {origin : Origin} {fs : List (String × Node)} (keys : (fs.map Prod.fst).Nodup)
      (values : ∀ f ∈ fs, f.2.Distinct) : Distinct (.table origin fs)
  | tables {ts : List (List (String × Node))} (keys : ∀ t ∈ ts, (t.map Prod.fst).Nodup)
      (values : ∀ t ∈ ts, ∀ f ∈ t, f.2.Distinct) : Distinct (.tables ts)

theorem Keyed.toNode {origin : Origin} {fs : List (String × Node)} (h : Keyed Node.Distinct fs) :
    (Node.table origin fs).Distinct :=
  .table h.distinct h.values

theorem Node.Distinct.keyed {origin : Origin} {fs : List (String × Node)}
    (h : (Node.table origin fs).Distinct) : Keyed Node.Distinct fs := by
  cases h with
  | table keys values => exact ⟨keys, values⟩

theorem Node.distinct_tables_iff {ts : List (List (String × Node))} :
    (Node.tables ts).Distinct ↔ ∀ t ∈ ts, Keyed Node.Distinct t := by
  constructor
  · intro h
    cases h with
    | tables keys values => exact fun t ht => ⟨keys t ht, values t ht⟩
  · intro h
    exact .tables (fun t ht => (h t ht).distinct) fun t ht => (h t ht).values

theorem toFields_eq_map (fs : List (String × Node)) :
    toFields fs = fs.map fun f => (f.1, f.2.toValue) := by
  induction fs with
  | nil => rfl
  | cons f fs ih => rw [toFields, ih, List.map_cons]

theorem toTables_eq_map (ts : List (List (String × Node))) :
    toTables ts = ts.map fun t => .table (toFields t) := by
  induction ts with
  | nil => rfl
  | cons t ts ih => rw [toTables, ih, List.map_cons]

theorem Node.Distinct.toValue {n : Node} (h : n.Distinct) : n.toValue.Distinct := by
  induction h with
  | value h => exact h
  | table keys values ih =>
    rw [Node.toValue, toFields_eq_map]
    exact (Keyed.map ⟨keys, values⟩ ih).toValue
  | tables keys values ih =>
    rw [Node.toValue, toTables_eq_map]
    refine .array fun v hv => ?_
    obtain ⟨t, ht, rfl⟩ := List.mem_map.mp hv
    rw [toFields_eq_map]
    exact (Keyed.map ⟨keys t ht, values t ht⟩ (ih t ht)).toValue

/-- A change that leaves the keys of a table distinct. -/
def KeepsDistinct (f : List (String × Node) → Option (List (String × Node))) : Prop :=
  ∀ fs gs, Keyed Node.Distinct fs → f fs = some gs → Keyed Node.Distinct gs

theorem KeepsDistinct.alterLast? {f : List (String × Node) → Option (List (String × Node))}
    (hf : KeepsDistinct f) {ts us : List (List (String × Node))} (h : (Node.tables ts).Distinct)
    (ha : alterLast? f ts = some us) : (Node.tables us).Distinct := by
  rw [Node.distinct_tables_iff] at h ⊢
  induction ts using alterLast?.induct f generalizing us with
  | case1 => cases ha
  | case2 t u hu =>
    simp only [Toml.alterLast?, hu] at ha
    cases ha
    simpa using hf t u (h t List.mem_cons_self) hu
  | case3 t hu => simp [Toml.alterLast?, hu] at ha
  | case4 t ts hne us' hus ih =>
    simp only [Toml.alterLast?, hus] at ha
    cases ha
    obtain ⟨ht, hts⟩ := List.forall_mem_cons.mp h
    exact List.forall_mem_cons.mpr ⟨ht, ih hts hus⟩
  | case5 t ts hne hus ih => simp [Toml.alterLast?, hus] at ha

theorem KeepsDistinct.within? {f : List (String × Node) → Option (List (String × Node))}
    (hf : KeepsDistinct f) (ps : List String) : KeepsDistinct (within? f ps) := by
  induction ps with
  | nil => exact hf
  | cons p ps ih =>
    intro fs gs h hw
    refine h.alter? ?_ hw
    intro found n hfound hn
    split at hn
    · obtain ⟨sub, hsub, rfl⟩ := Option.map_eq_some_iff.mp hn
      exact (ih _ _ .nil hsub).toNode
    · obtain ⟨sub, hsub, rfl⟩ := Option.map_eq_some_iff.mp hn
      exact (ih _ _ (hfound _ rfl).keyed hsub).toNode
    · obtain ⟨ts, hts, rfl⟩ := Option.map_eq_some_iff.mp hn
      exact ih.alterLast? (hfound _ rfl) hts
    · cases hn

theorem keepsDistinct_head? (key : String) : KeepsDistinct (head? key) := by
  intro fs gs h hh
  simp only [head?] at hh
  split at hh
  · rename_i hn
    cases hh
    exact h.snoc (lookup?_eq_none_iff.mp hn) (Keyed.toNode .nil)
  · rename_i sub hs
    cases hh
    -- taken out first, so that its key is free at the end
    exact h.remove.snoc key_not_mem_remove (h.of_lookup? hs).keyed.toNode
  · cases hh

theorem keepsDistinct_append? (key : String) : KeepsDistinct (append? key) := by
  intro fs gs h ha
  refine h.alter? ?_ ha
  intro found n hfound hn
  split at hn
  · cases hn
    exact Node.distinct_tables_iff.mpr (by simpa using Keyed.nil)
  · rename_i ts
    cases hn
    have hts := Node.distinct_tables_iff.mp (hfound _ rfl)
    refine Node.distinct_tables_iff.mpr fun t ht => ?_
    rcases List.mem_append.mp ht with ht | ht
    · exact hts t ht
    · rw [List.mem_singleton.mp ht]
      exact .nil
  · cases hn

theorem keepsDistinct_insert? {v : Value} (hv : v.Distinct) (ps : List String) (key : String) :
    KeepsDistinct (insert? v ps key) := by
  induction ps with
  | nil =>
    intro fs gs h hi
    exact h.insertNew? (.value hv) hi
  | cons p ps ih =>
    intro fs gs h hi
    refine h.alter? ?_ hi
    intro found n hfound hn
    split at hn
    · obtain ⟨sub, hsub, rfl⟩ := Option.map_eq_some_iff.mp hn
      exact (ih _ _ .nil hsub).toNode
    · obtain ⟨sub, hsub, rfl⟩ := Option.map_eq_some_iff.mp hn
      exact (ih _ _ (hfound _ rfl).keyed hsub).toNode
    · split at hn
      · cases hn
      · obtain ⟨sub, hsub, rfl⟩ := Option.map_eq_some_iff.mp hn
        exact (ih _ _ (hfound _ rfl).keyed hsub).toNode
    · split at hn
      · cases hn
      · obtain ⟨ts, hts, rfl⟩ := Option.map_eq_some_iff.mp hn
        exact ih.alterLast? (hfound _ rfl) hts
    · cases hn
    · cases hn

theorem Draft.keyed_of_step? {d d' : Draft} {s : Statement} (hs : s.Distinct)
    (h : Keyed Node.Distinct d.fields) (hd : d.step? s = some d') :
    Keyed Node.Distinct d'.fields := by
  cases s with
  | assign p v =>
    simp only [Draft.step?] at hd
    split at hd
    · rename_i fs hfs
      cases hd
      exact (keepsDistinct_insert? (hs p v rfl) _ _).within? _ _ _ h hfs
    · cases hd
  | header p =>
    simp only [Draft.step?] at hd
    split at hd
    · rename_i fs hfs
      cases hd
      exact (keepsDistinct_head? _).within? _ _ _ h hfs
    · cases hd
  | item p =>
    simp only [Draft.step?] at hd
    split at hd
    · rename_i fs hfs
      cases hd
      exact (keepsDistinct_append? _).within? _ _ _ h hfs
    · cases hd

theorem keyed_of_build? {ss : List Statement} {fs : List (String × Value)}
    (hss : ∀ s ∈ ss, s.Distinct) (h : build? ss = some fs) : Keyed Value.Distinct fs := by
  simp only [build?] at h
  split at h
  · rename_i d hd
    cases h
    have hk : Keyed Node.Distinct d.fields :=
      foldlM_keeps (I := fun d : Draft => Keyed Node.Distinct d.fields) .nil
        (fun _ s _ hs h hd => Draft.keyed_of_step? (hss s hs) h hd) hd
    rw [toFields_eq_map]
    exact hk.map fun f hf => (hk.values f hf).toValue
  · cases h

/-- In the table of a document, and in every table inside it, no key stands twice. -/
theorem keyed_of_document? {text : String} {fs : List (String × Value)}
    (h : document? text = some fs) : Keyed Value.Distinct fs := by
  simp only [document?] at h
  split at h
  · rename_i ss hss
    exact keyed_of_build? (distinct_of_lines? hss) h
  · cases h

end Toml
end ThemeMenu
