import ThemeMenu.Config.Decode
import ThemeMenu.Proofs.Toml.Distinct

/-!
# ThemeMenu.Proofs.Config.Entry

Which values are read as an entry of the catalogue, and what is wrong with all others. A value
either writes an entry or has a fault, and reading it answers just that.

* `Entry.Writes`: a value and the entry it writes, as a table or as an array.
* `Entry.Fault`: a value that writes no entry, and what messages say about it.
* `Entry.ofValue_of_writes`, `Entry.ofValue_of_fault`, `Entry.writes_or_fault`: reading.
* `Entry.essential`: what of a value has a bearing on the entry.
-/

namespace ThemeMenu

open Toml (Value lookup? lookup?_of_mem mem_of_lookup? lookup?_eq_none_iff)

def Toml.Value.IsText (v : Value) : Prop := ∃ s, v = .string s

theorem stringOf_of_not_isText {v : Value} (h : ¬ v.IsText) :
    stringOf v = .error (invalidType v "a string") := by
  cases v with
  | string s => exact absurd ⟨s, rfl⟩ h
  | _ => rfl

/-- Of fields that are not all good, one is the first that is not. -/
theorem exists_first_not {α : Type} {P : α → Prop} {as : List α} (h : ¬ ∀ a ∈ as, P a) :
    ∃ before a after, as = before ++ a :: after ∧ (∀ b ∈ before, P b) ∧ ¬ P a := by
  induction as with
  | nil => simp at h
  | cons a as ih =>
    by_cases ha : P a
    · have has : ¬ ∀ b ∈ as, P b := fun hb => h (List.forall_mem_cons.mpr ⟨ha, hb⟩)
      obtain ⟨before, b, after, rfl, hbefore, hb⟩ := ih has
      exact ⟨a :: before, b, after, rfl, List.forall_mem_cons.mpr ⟨ha, hbefore⟩, hb⟩
    · exact ⟨[], a, as, rfl, by simp, ha⟩

namespace Entry

def IsPart (key : String) : Prop := key = "label" ∨ key = "path"

instance : DecidablePred IsPart := fun key =>
  inferInstanceAs (Decidable (key = "label" ∨ key = "path"))

@[simp] theorem isPart_label : IsPart "label" := .inl rfl

@[simp] theorem isPart_path : IsPart "path" := .inr rfl

/-- The value writes the entry: as a table with a label and a path, or as an array that starts
with them. -/
inductive Writes : Value → Entry → Prop where
  | table {fs : List (String × Value)} {l p : String}
      (label : lookup? "label" fs = some (.string l))
      (path : lookup? "path" fs = some (.string p)) : Writes (.table fs) ⟨l, p⟩
  | array {l p : String} {more : List Value} :
      Writes (.array (.string l :: .string p :: more)) ⟨l, p⟩

/-- A table whose label and path, as far as they are given, are texts. -/
def Sound (fs : List (String × Value)) : Prop := ∀ f ∈ fs, IsPart f.1 → f.2.IsText

/-- What keeps a value from writing an entry, as messages say it. In a table the first label or
path that is no text counts for more than one that is missing. -/
inductive Fault : Value → String → Prop where
  | part {before after : List (String × Value)} {key : String} {v : Value} (sound : Sound before)
      (part : IsPart key) (wrong : ¬ v.IsText) :
      Fault (.table (before ++ (key, v) :: after)) (invalidType v "a string")
  | label {fs : List (String × Value)} (sound : Sound fs) (absent : lookup? "label" fs = none) :
      Fault (.table fs) (missing "label")
  | path {fs : List (String × Value)} (sound : Sound fs) (label : lookup? "label" fs ≠ none)
      (absent : lookup? "path" fs = none) : Fault (.table fs) (missing "path")
  | moment : Fault .moment (missing "label")
  | empty : Fault (.array []) (tooShort 0)
  | first {v : Value} {more : List Value} (wrong : ¬ v.IsText) :
      Fault (.array (v :: more)) (invalidType v "a string")
  | single {l : String} : Fault (.array [.string l]) (tooShort 1)
  | second {l : String} {v : Value} {more : List Value} (wrong : ¬ v.IsText) :
      Fault (.array (.string l :: v :: more)) (invalidType v "a string")
  | shape {v : Value} (table : ∀ fs, v ≠ .table fs) (array : ∀ vs, v ≠ .array vs)
      (moment : v ≠ .moment) : Fault v (invalidType v typeName)

theorem writes_table_iff {fs : List (String × Value)} {e : Entry} :
    Writes (.table fs) e ↔
      lookup? "label" fs = some (.string e.label) ∧ lookup? "path" fs = some (.string e.path) := by
  constructor
  · rintro (⟨label, path⟩ | _)
    exact ⟨label, path⟩
  · rintro ⟨label, path⟩
    exact .table label path

theorem writes_array_iff {vs : List Value} {e : Entry} :
    Writes (.array vs) e ↔ vs[0]? = some (.string e.label) ∧ vs[1]? = some (.string e.path) := by
  constructor
  · rintro (_ | _)
    exact ⟨rfl, rfl⟩
  · rintro ⟨label, path⟩
    match vs with
    | [] => simp at label
    | [_] => simp at path
    | v :: w :: more =>
      simp only [List.getElem?_cons_zero, Option.some.injEq] at label
      simp only [List.getElem?_cons_succ, List.getElem?_cons_zero, Option.some.injEq] at path
      subst label path
      exact .array

theorem Writes.unique {v : Value} {e e' : Entry} (h : Writes v e) (h' : Writes v e') : e = e' := by
  cases h with
  | table label path =>
    obtain ⟨label', path'⟩ := writes_table_iff.mp h'
    rw [label] at label'
    rw [path] at path'
    cases label'
    cases path'
    rfl
  | array =>
    cases h'
    rfl

/-! ## Tables -/

section

variable {fs : List (String × Value)} {label path : Option String} {key : String}

theorem Sound.isText_of_lookup? (h : Sound fs) {v : Value} (hk : IsPart key)
    (hv : lookup? key fs = some v) : v.IsText :=
  h _ (mem_of_lookup? hv) hk

/-- The text under a key. -/
def text? (key : String) (fs : List (String × Value)) : Option String :=
  match lookup? key fs with
  | some (.string s) => some s
  | _ => none

theorem text?_cons_self {s : String} : text? key ((key, .string s) :: fs) = some s := by
  simp [text?, lookup?]

theorem text?_cons_of_ne {k : String} {v : Value} (h : k ≠ key) :
    text? key ((k, v) :: fs) = text? key fs := by
  simp [text?, lookup?, h]

theorem text?_of_not_mem (h : key ∉ fs.map Prod.fst) : text? key fs = none := by
  simp [text?, lookup?_eq_none_iff.mpr h]

/-- As long as nothing is wrong, reading on adds the parts that are still to come. -/
theorem ofFields_of_sound (hd : (fs.map Prod.fst).Nodup) (h : Sound fs) :
    ofFields label path fs =
      ofParts ((text? "label" fs).or label) ((text? "path" fs).or path) := by
  induction fs generalizing label path with
  | nil => simp [ofFields, text?, lookup?]
  | cons f fs ih =>
    obtain ⟨key, v⟩ := f
    obtain ⟨hkey, hfs⟩ : key ∉ fs.map Prod.fst ∧ (fs.map Prod.fst).Nodup := List.nodup_cons.mp hd
    obtain ⟨hv, hs⟩ := List.forall_mem_cons.mp h
    by_cases hl : key = "label"
    · subst hl
      obtain ⟨s, rfl⟩ := hv isPart_label
      simp only [ofFields, if_true, stringOf, ih hfs hs]
      rw [text?_of_not_mem hkey, text?_cons_self, text?_cons_of_ne (by decide)]
      rfl
    · by_cases hp : key = "path"
      · subst hp
        obtain ⟨s, rfl⟩ := hv isPart_path
        simp only [ofFields, if_neg hl, if_true, stringOf, ih hfs hs]
        rw [text?_of_not_mem hkey, text?_cons_self, text?_cons_of_ne hl]
        rfl
      · simp only [ofFields, if_neg hl, if_neg hp, ih hfs hs]
        rw [text?_cons_of_ne hl, text?_cons_of_ne hp]

theorem ofFields_of_wrong {before after : List (String × Value)} {v : Value} (h : Sound before)
    (hk : IsPart key) (hv : ¬ v.IsText) :
    ofFields label path (before ++ (key, v) :: after) = .error (invalidType v "a string") := by
  induction before generalizing label path with
  | nil =>
    rcases hk with rfl | rfl
    · simp [ofFields, stringOf_of_not_isText hv]
    · simp [ofFields, stringOf_of_not_isText hv]
  | cons f before ih =>
    obtain ⟨k, w⟩ := f
    obtain ⟨hw, hs⟩ := List.forall_mem_cons.mp h
    by_cases hl : k = "label"
    · obtain ⟨s, rfl⟩ := hw (.inl hl)
      simpa [ofFields, hl, stringOf] using ih hs
    · by_cases hp : k = "path"
      · obtain ⟨s, rfl⟩ := hw (.inr hp)
        simpa [ofFields, hp, stringOf] using ih hs
      · simpa [ofFields, hl, hp] using ih hs

theorem sound_of_texts {l p : String} (hd : (fs.map Prod.fst).Nodup)
    (hl : lookup? "label" fs = some (.string l)) (hp : lookup? "path" fs = some (.string p)) :
    Sound fs := by
  rintro ⟨key, v⟩ hf (rfl | rfl)
  · exact ⟨l, Option.some.inj ((lookup?_of_mem hd hf).symm.trans hl)⟩
  · exact ⟨p, Option.some.inj ((lookup?_of_mem hd hf).symm.trans hp)⟩

end

/-! ## Values -/

section

variable {v : Value} {e : Entry} {m : String}

theorem ofValue_of_writes (hd : v.Distinct) (h : Writes v e) : ofValue v = .ok e := by
  cases h with
  | table hl hp =>
    have hs := sound_of_texts hd.keyed.distinct hl hp
    simp [ofValue, ofFields_of_sound hd.keyed.distinct hs, text?, hl, hp, ofParts]
  | array => rfl

theorem ofValue_of_fault (hd : v.Distinct) (h : Fault v m) : ofValue v = .error m := by
  cases h with
  | part sound part wrong => exact ofFields_of_wrong sound part wrong
  | label sound absent =>
    simp [ofValue, ofFields_of_sound hd.keyed.distinct sound, text?, absent, ofParts]
  | @path fs sound label absent =>
    obtain ⟨w, hw⟩ := Option.ne_none_iff_exists'.mp label
    obtain ⟨l, rfl⟩ := sound.isText_of_lookup? isPart_label hw
    simp [ofValue, ofFields_of_sound hd.keyed.distinct sound, text?, hw, absent, ofParts]
  | moment => rfl
  | empty => rfl
  | first wrong => simp [ofValue, ofItems, stringOf_of_not_isText wrong]
  | single => rfl
  | second wrong =>
    simp only [ofValue, ofItems, stringOf_of_not_isText wrong]
    rfl
  | shape table array moment =>
    cases v with
    | table fs => exact absurd rfl (table fs)
    | array vs => exact absurd rfl (array vs)
    | moment => exact absurd rfl moment
    | _ => rfl

theorem table_writes_or_fault (fs : List (String × Value)) :
    (∃ e, Writes (.table fs) e) ∨ ∃ m, Fault (.table fs) m := by
  by_cases hs : Sound fs
  · cases hl : lookup? "label" fs with
    | none => exact .inr ⟨_, .label hs hl⟩
    | some v =>
      cases hp : lookup? "path" fs with
      | none => exact .inr ⟨_, .path hs (by simp [hl]) hp⟩
      | some w =>
        obtain ⟨l, rfl⟩ := hs.isText_of_lookup? isPart_label hl
        obtain ⟨p, rfl⟩ := hs.isText_of_lookup? isPart_path hp
        exact .inl ⟨_, .table hl hp⟩
  · obtain ⟨before, f, after, rfl, hbefore, hf⟩ := exists_first_not hs
    have hf : IsPart f.1 ∧ ¬ f.2.IsText := Classical.not_imp.mp hf
    exact .inr ⟨_, .part hbefore hf.1 hf.2⟩

theorem array_writes_or_fault (vs : List Value) :
    (∃ e, Writes (.array vs) e) ∨ ∃ m, Fault (.array vs) m := by
  cases vs with
  | nil => exact .inr ⟨_, .empty⟩
  | cons v vs =>
    by_cases hv : v.IsText
    · obtain ⟨l, rfl⟩ := hv
      cases vs with
      | nil => exact .inr ⟨_, .single⟩
      | cons w vs =>
        by_cases hw : w.IsText
        · obtain ⟨p, rfl⟩ := hw
          exact .inl ⟨_, .array⟩
        · exact .inr ⟨_, .second hw⟩
    · exact .inr ⟨_, .first hv⟩

theorem writes_or_fault (v : Value) : (∃ e, Writes v e) ∨ ∃ m, Fault v m := by
  cases v with
  | table fs => exact table_writes_or_fault fs
  | array vs => exact array_writes_or_fault vs
  | moment => exact .inr ⟨_, .moment⟩
  | _ => exact .inr ⟨_, .shape (by simp) (by simp) (by simp)⟩

end

/-! ## What has no bearing -/

/-- The label and the path of a table, and the first two items of an array. -/
def essential : Value → Value
  | .table fs => .table (fs.filter fun f => decide (IsPart f.1))
  | .array vs => .array (vs.take 2)
  | v => v

theorem ofFields_filter (label path : Option String) (fs : List (String × Value)) :
    ofFields label path (fs.filter fun f => decide (IsPart f.1)) =
      ofFields label path fs := by
  induction fs generalizing label path with
  | nil => rfl
  | cons f fs ih =>
    obtain ⟨key, v⟩ := f
    by_cases hl : key = "label"
    · simp [ofFields, hl, ih]
    · by_cases hp : key = "path"
      · simp [ofFields, hp, ih]
      · have hk : ¬ IsPart key := fun h => h.elim hl hp
        simp [hk, ofFields, hl, hp, ih]

theorem ofItems_take_two (vs : List Value) : ofItems (vs.take 2) = ofItems vs := by
  cases vs with
  | nil => rfl
  | cons v vs =>
    cases vs with
    | nil => rfl
    | cons w vs => rfl

theorem ofValue_essential (v : Value) : ofValue (essential v) = ofValue v := by
  cases v with
  | table fs => exact ofFields_filter none none fs
  | array vs => exact ofItems_take_two vs
  | _ => rfl

theorem lookup?_filter_isPart {key : String} (h : IsPart key) (fs : List (String × Value)) :
    lookup? key (fs.filter fun f => decide (IsPart f.1)) = lookup? key fs := by
  induction fs with
  | nil => rfl
  | cons f fs ih =>
    by_cases hf : IsPart f.1
    · simp [hf, lookup?, ih]
    · have hk : f.1 ≠ key := fun hk => hf (hk ▸ h)
      simp [hf, lookup?, ih, hk]

theorem writes_essential_iff {v : Value} {e : Entry} : Writes (essential v) e ↔ Writes v e := by
  cases v with
  | table fs =>
    simp only [essential, writes_table_iff, lookup?_filter_isPart isPart_label,
      lookup?_filter_isPart isPart_path]
  | array vs =>
    rw [essential, writes_array_iff, writes_array_iff, List.getElem?_take_of_lt (by decide),
      List.getElem?_take_of_lt (by decide)]
  | _ => exact Iff.rfl

theorem essential_eq_string_iff {v : Value} {s : String} :
    essential v = .string s ↔ v = .string s := by
  cases v <;> simp [essential]

end Entry
end ThemeMenu
