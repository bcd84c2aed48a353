import ThemeMenu.Proofs.Config.Entry

/-!
# ThemeMenu.Proofs.Config.Overlay

Reading settings lays a document over the built-in values, field by field. A field that is present
has the value from the document, exactly, and every other field has its built-in value; what the
settings do not know has no bearing. Since no key stands twice, the order of keys does not matter
to a document that is accepted. For one that is refused it does: the first key with a bad value
decides what is reported.

* `Config.Takes`, `Config.Refuses`: which values a key may have, and what is wrong with others.
* `Config.Overlays`: settings laid over others, field by field.
* `Config.overlay_eq_ok_iff`, `Config.overlay_eq_error_iff`: a run over a table.
* `Config.essential`, `Config.Alike`: what does not matter.
* `Config.ofText_reads`: reading a document.
-/

namespace ThemeMenu

open Toml (Value Keyed lookup? lookup?_of_mem mem_of_lookup? lookup?_eq_none_iff)

/-- Two values that differ at most in the order of the keys of tables. -/
inductive Toml.Value.Same : Value → Value → Prop where
  | refl {v : Value} : Same v v
  | array {vs ws : List Value} (items : ∀ i : Nat, Option.Rel Same vs[i]? ws[i]?) :
      Same (.array vs) (.array ws)
  | table {fs gs : List (String × Value)}
      (fields : ∀ key, Option.Rel Same (lookup? key fs) (lookup? key gs)) :
      Same (.table fs) (.table gs)

namespace Toml.Value.Same

variable {v w : Value}

theorem eq_string_iff {s : String} (h : v.Same w) : v = .string s ↔ w = .string s := by
  cases h with
  | refl => exact Iff.rfl
  | array _ => simp
  | table _ => simp

theorem eq_some_string_iff {found found' : Option Value} {s : String}
    (h : Option.Rel Value.Same found found') :
    found = some (.string s) ↔ found' = some (.string s) := by
  cases h with
  | none => exact Iff.rfl
  | some hvw => simpa using hvw.eq_string_iff

theorem writes_iff {e : Entry} (h : v.Same w) : Entry.Writes v e ↔ Entry.Writes w e := by
  cases h with
  | refl => exact Iff.rfl
  | array items =>
    rw [Entry.writes_array_iff, Entry.writes_array_iff, eq_some_string_iff (items 0),
      eq_some_string_iff (items 1)]
  | table fields =>
    rw [Entry.writes_table_iff, Entry.writes_table_iff, eq_some_string_iff (fields "label"),
      eq_some_string_iff (fields "path")]

end Toml.Value.Same

namespace Config

variable {c c' c'' : Config} {fs : List (String × Value)} {key m : String} {v w : Value}

def textKeys : List String := ["menu_id", "selector_id", "stylesheet_id"]

def entryKeys : List String := ["light", "dark"]

theorem mem_textKeys :
    key ∈ textKeys ↔ key = "menu_id" ∨ key = "selector_id" ∨ key = "stylesheet_id" := by
  simp [textKeys]

theorem mem_entryKeys : key ∈ entryKeys ↔ key = "light" ∨ key = "dark" := by simp [entryKeys]

/-- The settings take the value under the key. Under keys they do not know they take any. -/
structure Takes (key : String) (v : Value) : Prop where
  text : key ∈ textKeys → v.IsText
  entry : key ∈ entryKeys → ∃ e, Entry.Writes v e

/-- The settings refuse the value under the key, with a message. -/
inductive Refuses : String → Value → String → Prop where
  | text {key : String} {v : Value} (known : key ∈ textKeys) (wrong : ¬ v.IsText) :
      Refuses key v (invalidType v "a string")
  | entry {key : String} {v : Value} {m : String} (known : key ∈ entryKeys)
      (fault : Entry.Fault v m) : Refuses key v m

theorem takes_or_refuses (key : String) (v : Value) : Takes key v ∨ ∃ m, Refuses key v m := by
  by_cases ht : key ∈ textKeys → v.IsText
  · by_cases he : key ∈ entryKeys → ∃ e, Entry.Writes v e
    · exact .inl ⟨ht, he⟩
    · obtain ⟨hk, he⟩ := Classical.not_imp.mp he
      obtain ⟨m, hm⟩ := (Entry.writes_or_fault v).resolve_left he
      exact .inr ⟨m, .entry hk hm⟩
  · obtain ⟨hk, hv⟩ := Classical.not_imp.mp ht
    exact .inr ⟨_, .text hk hv⟩

/-! ## Field by field -/

/-- A field after a table was laid over it: what the table has for it, or else what it was. -/
def Laid {α : Type} (writes : Value → α → Prop) (found : Option Value) (old new : α) : Prop :=
  found = none ∧ new = old ∨ ∃ v, found = some v ∧ writes v new

section

variable {α : Type} {writes : Value → α → Prop} {a b d : α} {k : String}

theorem laid_none_iff : Laid writes none a b ↔ b = a := by simp [Laid]

theorem laid_some_iff : Laid writes (some v) a b ↔ writes v b := by simp [Laid]

theorem Laid.of_lookup? (h : Laid writes (lookup? k fs) a b) (hv : lookup? k fs = some v) :
    writes v b := by
  rw [hv] at h
  exact laid_some_iff.mp h

theorem Laid.cons (h : Laid writes (lookup? k [(key, v)]) a b) (h' : Laid writes (lookup? k fs) b d)
    (hkey : key ∉ fs.map Prod.fst) : Laid writes (lookup? k ((key, v) :: fs)) a d := by
  by_cases hk : key = k
  · subst hk
    rw [lookup?_eq_none_iff.mpr hkey, laid_none_iff] at h'
    subst h'
    simpa [lookup?] using h
  · simp only [lookup?, hk, if_false] at h ⊢
    rw [laid_none_iff] at h
    exact h ▸ h'

theorem Laid.unique (hw : ∀ v b d, writes v b → writes v d → b = d) {found : Option Value}
    (h : Laid writes found a b) (h' : Laid writes found a d) : b = d := by
  cases found with
  | none => rw [laid_none_iff.mp h, laid_none_iff.mp h']
  | some v => exact hw v b d (laid_some_iff.mp h) (laid_some_iff.mp h')

theorem Laid.congr {R : Value → Value → Prop} {found found' : Option Value}
    (hR : ∀ v w x, R v w → (writes v x ↔ writes w x)) (hf : Option.Rel R found found') :
    Laid writes found a b ↔ Laid writes found' a b := by
  cases hf with
  | none => exact Iff.rfl
  | some hvw => rw [laid_some_iff, laid_some_iff, hR _ _ b hvw]

end

/-- The second settings are the first with the table laid over them. -/
structure Overlays (base : Config) (fs : List (String × Value)) (c : Config) : Prop where
  menuId : Laid (fun v s => v = .string s) (lookup? "menu_id" fs) base.menuId c.menuId
  selectorId : Laid (fun v s => v = .string s) (lookup? "selector_id" fs) base.selectorId c.selectorId
  stylesheetId :
    Laid (fun v s => v = .string s) (lookup? "stylesheet_id" fs) base.stylesheetId c.stylesheetId
  light : Laid Entry.Writes (lookup? "light" fs) base.light c.light
  dark : Laid Entry.Writes (lookup? "dark" fs) base.dark c.dark

namespace Overlays

theorem nil : Overlays c [] c := by
  constructor <;> exact .inl ⟨rfl, rfl⟩

theorem cons (h : Overlays c [(key, v)] c') (h' : Overlays c' fs c'')
    (hkey : key ∉ fs.map Prod.fst) : Overlays c ((key, v) :: fs) c'' where
  menuId := h.menuId.cons h'.menuId hkey
  selectorId := h.selectorId.cons h'.selectorId hkey
  stylesheetId := h.stylesheetId.cons h'.stylesheetId hkey
  light := h.light.cons h'.light hkey
  dark := h.dark.cons h'.dark hkey

theorem unique (h : Overlays c fs c') (h' : Overlays c fs c'') : c' = c'' := by
  have text : ∀ (v : Value) (s s' : String), v = .string s → v = .string s' → s = s' := by
    rintro v s s' rfl ⟨⟩
    rfl
  have entry : ∀ v e e', Entry.Writes v e → Entry.Writes v e' → e = e' :=
    fun v e e' => Entry.Writes.unique
  cases c'
  cases c''
  simp only [Config.mk.injEq]
  exact ⟨h.menuId.unique text h'.menuId, h.selectorId.unique text h'.selectorId,
    h.stylesheetId.unique text h'.stylesheetId, h.light.unique entry h'.light,
    h.dark.unique entry h'.dark⟩

end Overlays

/-! ## One field of a document -/

theorem take_text {s : String} (h : key ∈ textKeys) :
    ∃ c', c.take key (.string s) = .ok c' ∧ Overlays c [(key, .string s)] c' := by
  rcases mem_textKeys.mp h with rfl | rfl | rfl
  all_goals exact ⟨_, rfl, by constructor <;> simp [Laid, lookup?]⟩

theorem take_entry {e : Entry} (hd : v.Distinct) (h : key ∈ entryKeys) (hv : Entry.Writes v e) :
    ∃ c', c.take key v = .ok c' ∧ Overlays c [(key, v)] c' := by
  have hr := Entry.ofValue_of_writes hd hv
  rcases mem_entryKeys.mp h with rfl | rfl
  all_goals
    simp only [take, hr]
    exact ⟨_, rfl, by constructor <;> simp [Laid, lookup?, hv]⟩

theorem take_unknown (ht : key ∉ textKeys) (he : key ∉ entryKeys) :
    c.take key v = .ok c ∧ Overlays c [(key, v)] c := by
  simp only [mem_textKeys, mem_entryKeys, not_or] at ht he
  refine ⟨by simp [take, ht, he], ?_⟩
  constructor <;> simp [Laid, lookup?, ht, he]

/-- One field that is taken is laid over the settings. -/
theorem take_of_takes (hd : v.Distinct) (h : Takes key v) :
    ∃ c', c.take key v = .ok c' ∧ Overlays c [(key, v)] c' := by
  by_cases ht : key ∈ textKeys
  · obtain ⟨s, rfl⟩ := h.text ht
    exact take_text ht
  · by_cases he : key ∈ entryKeys
    · obtain ⟨e, hv⟩ := h.entry he
      exact take_entry hd he hv
    · exact ⟨c, take_unknown ht he⟩

theorem take_of_refuses (hd : v.Distinct) (h : Refuses key v m) : c.take key v = .error m := by
  cases h with
  | text known wrong =>
    have hs := stringOf_of_not_isText wrong
    rcases mem_textKeys.mp known with rfl | rfl | rfl
    all_goals simp [take, hs, Except.map]
  | entry known fault =>
    have hr := Entry.ofValue_of_fault hd fault
    rcases mem_entryKeys.mp known with rfl | rfl
    all_goals simp [take, hr, Except.map]

/-! ## Whole tables -/

theorem overlay_of_takes (hk : Keyed Value.Distinct fs) (h : ∀ f ∈ fs, Takes f.1 f.2) :
    ∃ c', overlay c fs = .ok c' ∧ Overlays c fs c' := by
  induction fs generalizing c with
  | nil => exact ⟨c, rfl, .nil⟩
  | cons f fs ih =>
    obtain ⟨key, v⟩ := f
    obtain ⟨hkey, hd⟩ := List.nodup_cons.mp hk.distinct
    obtain ⟨hv, hvs⟩ := List.forall_mem_cons.mp hk.values
    obtain ⟨hf, hfs⟩ := List.forall_mem_cons.mp h
    obtain ⟨c₁, htake, hlaid⟩ := take_of_takes (c := c) hv hf
    obtain ⟨c₂, hover, hlaid'⟩ := ih (c := c₁) ⟨hd, hvs⟩ hfs
    -- `key` does not come again, so what it wrote is still there at the end
    exact ⟨c₂, by rw [overlay, htake]; exact hover, hlaid.cons hlaid' hkey⟩

theorem overlay_of_refuses {before after : List (String × Value)}
    (hk : Keyed Value.Distinct (before ++ (key, v) :: after))
    (h : ∀ f ∈ before, Takes f.1 f.2) (hr : Refuses key v m) :
    overlay c (before ++ (key, v) :: after) = .error m := by
  induction before generalizing c with
  | nil =>
    have hv : v.Distinct := hk.values (key, v) List.mem_cons_self
    rw [List.nil_append, overlay, take_of_refuses hv hr]
  | cons f before ih =>
    obtain ⟨k, w⟩ := f
    obtain ⟨-, hd⟩ := List.nodup_cons.mp hk.distinct
    obtain ⟨hw, hvs⟩ := List.forall_mem_cons.mp hk.values
    obtain ⟨hf, hfs⟩ := List.forall_mem_cons.mp h
    obtain ⟨c₁, htake, -⟩ := take_of_takes (c := c) hw hf
    rw [List.cons_append, overlay, htake]
    exact ih ⟨hd, hvs⟩ hfs

/-- The first field of a table that is refused, with the message. -/
def FirstRefused (fs : List (String × Value)) (m : String) : Prop :=
  ∃ before key v after, fs = before ++ (key, v) :: after ∧
    (∀ f ∈ before, Takes f.1 f.2) ∧ Refuses key v m

theorem takes_or_firstRefused (fs : List (String × Value)) :
    (∀ f ∈ fs, Takes f.1 f.2) ∨ ∃ m, FirstRefused fs m := by
  by_cases h : ∀ f ∈ fs, Takes f.1 f.2
  · exact .inl h
  · obtain ⟨before, f, after, rfl, hbefore, hf⟩ := exists_first_not h
    obtain ⟨m, hm⟩ := (takes_or_refuses f.1 f.2).resolve_left hf
    exact .inr ⟨m, before, f.1, f.2, after, rfl, hbefore, hm⟩

theorem overlay_eq_error_iff (hk : Keyed Value.Distinct fs) :
    overlay c fs = .error m ↔ FirstRefused fs m := by
  constructor
  · intro h
    -- a run has one outcome, so it is enough to know which of the two kinds of table this is
    rcases takes_or_firstRefused fs with ht | ⟨m', hm⟩
    · obtain ⟨c', hc, -⟩ := overlay_of_takes (c := c) hk ht
      rw [hc] at h
      cases h
    · obtain ⟨before, key, v, after, rfl, hbefore, hr⟩ := hm
      rw [overlay_of_refuses hk hbefore hr] at h
      cases h
      exact ⟨before, key, v, after, rfl, hbefore, hr⟩
  · rintro ⟨before, key, v, after, rfl, hbefore, hr⟩
    exact overlay_of_refuses hk hbefore hr

theorem takes_of_overlay (hk : Keyed Value.Distinct fs) (h : overlay c fs = .ok c') :
    ∀ f ∈ fs, Takes f.1 f.2 := by
  rcases takes_or_firstRefused fs with ht | ⟨m, hm⟩
  · exact ht
  · rw [(overlay_eq_error_iff hk).mpr hm] at h
    cases h

/-- Settings laid over others take every field. -/
theorem Overlays.takes (h : Overlays c fs c') (hv : lookup? key fs = some v) : Takes key v := by
  constructor
  · intro hk
    rcases mem_textKeys.mp hk with rfl | rfl | rfl
    · exact ⟨_, h.menuId.of_lookup? hv⟩
    · exact ⟨_, h.selectorId.of_lookup? hv⟩
    · exact ⟨_, h.stylesheetId.of_lookup? hv⟩
  · intro hk
    rcases mem_entryKeys.mp hk with rfl | rfl
    · exact ⟨_, h.light.of_lookup? hv⟩
    · exact ⟨_, h.dark.of_lookup? hv⟩

theorem forall_takes_iff (hk : Keyed Value.Distinct fs) :
    (∀ key v, lookup? key fs = some v → Takes key v) ↔ ∀ f ∈ fs, Takes f.1 f.2 :=
  ⟨fun h f hf => h f.1 f.2 (lookup?_of_mem hk.distinct hf), fun h _ _ hv => h _ (mem_of_lookup? hv)⟩

theorem overlay_eq_ok_iff (hk : Keyed Value.Distinct fs) :
    overlay c fs = .ok c' ↔ Overlays c fs c' := by
  constructor
  · intro h
    obtain ⟨c₁, hc, hlaid⟩ := overlay_of_takes (c := c) hk (takes_of_overlay hk h)
    rw [h] at hc
    cases hc
    exact hlaid
  · intro h
    have ht := (forall_takes_iff hk).mp fun _ _ => h.takes
    obtain ⟨c₁, hc, hlaid⟩ := overlay_of_takes (c := c) hk ht
    rw [hc, hlaid.unique h]

/-! ## What has no bearing -/

/-- What of a field has a bearing on the settings, if anything. -/
def essentialAt (key : String) (v : Value) : Option Value :=
  if key ∈ textKeys then some v
  else if key ∈ entryKeys then some (Entry.essential v)
  else none

/-- The fields that settings know, without what does not matter in them. -/
def essential (fs : List (String × Value)) : List (String × Value) :=
  fs.filterMap fun f => (essentialAt f.1 f.2).map fun v => (f.1, v)

theorem take_essentialAt (c : Config) (key : String) (v : Value) : c.take key v =
    match essentialAt key v with
    | some w => c.take key w
    | none => .ok c := by
  by_cases ht : key ∈ textKeys
  · simp [essentialAt, ht]
  · by_cases he : key ∈ entryKeys
    · simp only [essentialAt, if_neg ht, if_pos he]
      rcases mem_entryKeys.mp he with rfl | rfl
      all_goals simp [take, Entry.ofValue_essential]
    · simp [essentialAt, ht, he, (take_unknown (c := c) (v := v) ht he).1]

theorem overlay_essential : overlay c (essential fs) = overlay c fs := by
  induction fs generalizing c with
  | nil => rfl
  | cons f fs ih =>
    obtain ⟨key, v⟩ := f
    have htake := take_essentialAt c key v
    cases he : essentialAt key v with
    | none =>
      rw [he] at htake
      have hcons : essential ((key, v) :: fs) = essential fs := by simp [essential, he]
      rw [hcons, ih, overlay, htake]
    | some w =>
      rw [he] at htake
      have hcons : essential ((key, v) :: fs) = (key, w) :: essential fs := by
        simp [essential, he]
      simp only [hcons, overlay, htake, ih]

/-- Two values that mean the same to the settings: what matters in them is the same but for the
order of keys, or they write one entry in different ways. -/
def Alike (v w : Value) : Prop :=
  (Entry.essential v).Same (Entry.essential w) ∨ ∃ e, Entry.Writes v e ∧ Entry.Writes w e

theorem Alike.eq_string_iff {s : String} (h : Alike v w) : v = .string s ↔ w = .string s := by
  obtain h | ⟨e, hv, hw⟩ := h
  · rw [← Entry.essential_eq_string_iff, h.eq_string_iff, Entry.essential_eq_string_iff]
  · have hne : ∀ {u}, Entry.Writes u e → u ≠ .string s := by
      rintro u (_ | _) <;> simp
    exact iff_of_false (hne hv) (hne hw)

theorem Alike.writes_iff {e : Entry} (h : Alike v w) : Entry.Writes v e ↔ Entry.Writes w e := by
  obtain h | ⟨e', hv, hw⟩ := h
  · rw [← Entry.writes_essential_iff, h.writes_iff, Entry.writes_essential_iff]
  · constructor
    · intro h
      rw [h.unique hv]
      exact hw
    · intro h
      rw [h.unique hw]
      exact hv

theorem overlays_congr {gs : List (String × Value)}
    (h : ∀ key, key ∈ textKeys ∨ key ∈ entryKeys →
      Option.Rel Alike (lookup? key fs) (lookup? key gs)) :
    Overlays c fs c' ↔ Overlays c gs c' := by
  have text : ∀ {k s s'}, k ∈ textKeys →
      (Laid (fun v s => v = Value.string s) (lookup? k fs) s s' ↔
        Laid (fun v s => v = Value.string s) (lookup? k gs) s s') :=
    fun hk => Laid.congr (fun _ _ _ => Alike.eq_string_iff) (h _ (.inl hk))
  have entry : ∀ {k e e'}, k ∈ entryKeys →
      (Laid Entry.Writes (lookup? k fs) e e' ↔ Laid Entry.Writes (lookup? k gs) e e') :=
    fun hk => Laid.congr (fun _ _ _ => Alike.writes_iff) (h _ (.inr hk))
  constructor
  · intro ho
    exact ⟨(text (by decide)).mp ho.menuId, (text (by decide)).mp ho.selectorId,
      (text (by decide)).mp ho.stylesheetId, (entry (by decide)).mp ho.light,
      (entry (by decide)).mp ho.dark⟩
  · intro ho
    exact ⟨(text (by decide)).mpr ho.menuId, (text (by decide)).mpr ho.selectorId,
      (text (by decide)).mpr ho.stylesheetId, (entry (by decide)).mpr ho.light,
      (entry (by decide)).mpr ho.dark⟩

/-! ## Documents -/

/-- How the settings come out of a document with the given table. -/
structure Reads (fs : List (String × Value)) (result : Except ConfigError Config) : Prop where
  /-- It is accepted exactly if every field that the settings know has a value they take. -/
  accepted : (∃ c, result = .ok c) ↔ ∀ key v, lookup? key fs = some v → Takes key v
  /-- The fields that are present have the values of the document, the others are built in. -/
  laid : ∀ c, result = .ok c ↔ Overlays {} fs c
  /-- If it is refused, then for the first key whose value is refused. -/
  refused : ∀ e, result = .error e ↔ ∃ m, e = .dataError m ∧ FirstRefused fs m
  /-- What the settings do not know has no bearing at all. -/
  ignored : ∀ text gs, Toml.document? text = some gs → essential gs = essential fs →
    ofText text = result
  /-- Neither the order of keys nor the way an entry is written has a bearing on the settings. -/
  unordered : ∀ text gs, Toml.document? text = some gs →
    (∀ key, key ∈ textKeys ∨ key ∈ entryKeys →
      Option.Rel Alike (lookup? key fs) (lookup? key gs)) →
    ∀ c, ofText text = .ok c ↔ result = .ok c

theorem ofText_of_document? {text : String} (h : Toml.document? text = some fs) :
    ofText text =
      match overlay {} fs with
      | .ok c => .ok c
      | .error m => .error (.dataError m) := by
  cases ho : overlay {} fs with
  | ok c => simp [ofText, h, ofFields, ho]
  | error m => simp [ofText, h, ofFields, ho]

theorem ofText_eq_ok_iff {text : String} (h : Toml.document? text = some fs) :
    ofText text = .ok c ↔ Overlays {} fs c := by
  rw [ofText_of_document? h, ← overlay_eq_ok_iff (Toml.keyed_of_document? h)]
  cases overlay {} fs with
  | ok c' => simp
  | error m => simp

theorem ofText_eq_error_iff {text : String} (h : Toml.document? text = some fs) {e : ConfigError} :
    ofText text = .error e ↔ ∃ m, e = .dataError m ∧ FirstRefused fs m := by
  rw [ofText_of_document? h]
  simp only [← overlay_eq_error_iff (c := {}) (Toml.keyed_of_document? h)]
  cases overlay {} fs with
  | ok c' => simp
  | error m => simp [eq_comm]

/-- Reading a document lays it over the built-in settings. -/
theorem ofText_reads {text : String} (h : Toml.document? text = some fs) :
    Reads fs (ofText text) where
  accepted := by
    have hk := Toml.keyed_of_document? h
    simp only [ofText_eq_ok_iff h]
    constructor
    · rintro ⟨c, hc⟩ key v hv
      exact hc.takes hv
    · intro ht
      obtain ⟨c, -, hc⟩ := overlay_of_takes (c := {}) hk ((forall_takes_iff hk).mp ht)
      exact ⟨c, hc⟩
  laid _ := ofText_eq_ok_iff h
  refused _ := ofText_eq_error_iff h
  ignored text' gs hg he := by
    rw [ofText_of_document? hg, ofText_of_document? h, ← overlay_essential, he, overlay_essential]
  unordered text' gs hg ha c := by
    rw [ofText_eq_ok_iff hg, ofText_eq_ok_iff h, overlays_congr ha]

instance : DecidableEq (Except ConfigError Config)
  | .ok c, .ok c' => decidable_of_iff (c = c') (by simp)
  | .error e, .error e' => decidable_of_iff (e = e') (by simp)
  | .ok _, .error _ => isFalse (by simp)
  | .error _, .ok _ => isFalse (by simp)

/-- An array with a third item, a key that is not known and a path before its label; then two
fields that are refused, of which the first one is reported. -/
theorem ofText_reads_night :
    (∃ fs, Toml.document?
        "light = [\"Day\", \"day.css\", 3]\nextra = 1\n[dark]\npath = \"n.css\"\nlabel = \"Dim\"" =
          some fs ∧
        Overlays {} fs { light := ⟨"Day", "day.css"⟩, dark := ⟨"Dim", "n.css"⟩ }) ∧
      ∃ fs, Toml.document? "dark = []\nmenu_id = 1" = some fs ∧
        FirstRefused fs "invalid length 0, expected struct ThemeOption with 2 elements" := by
  constructor
  · obtain ⟨fs, h⟩ := Option.isSome_iff_exists.mp (by decide +kernel : (Toml.document?
      "light = [\"Day\", \"day.css\", 3]\nextra = 1\n[dark]\npath = \"n.css\"\nlabel = \"Dim\"").isSome)
    exact ⟨fs, h, ((ofText_reads h).laid _).mp (by decide +kernel)⟩
  · obtain ⟨fs, h⟩ := Option.isSome_iff_exists.mp
      (by decide +kernel : (Toml.document? "dark = []\nmenu_id = 1").isSome)
    have herror : ofText "dark = []\nmenu_id = 1" =
        .error (.dataError "invalid length 0, expected struct ThemeOption with 2 elements") := by
      decide +kernel
    obtain ⟨m, hm, hfirst⟩ := ((ofText_reads h).refused _).mp herror
    cases hm
    exact ⟨fs, h, hfirst⟩

end Config
end ThemeMenu
