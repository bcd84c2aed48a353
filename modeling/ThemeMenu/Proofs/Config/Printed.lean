import ThemeMenu.Config.Printer
import ThemeMenu.Proofs.Config.Overlay
import ThemeMenu.Proofs.Toml.Sheet

/-!
# ThemeMenu.Proofs.Config.Printed

Settings that were printed are read back, in full and in part. The printed document has a value
for exactly the selected fields, and reading lays these over the built-in settings.

* `Config.fields_sheet`, `Config.lookup?_fieldsOf`: the table of a printed document.
* `Config.overlays_only`: that table, laid over the built-in settings.
* `Config.ofText_print`: printing and reading.
-/

namespace ThemeMenu

open Toml (Value Sheet Bare lookup? lookup?_of_mem lookup?_eq_none_iff)

namespace Config

variable {c : Config} {selected : Field → Bool}

/-! ## The printed table -/

theorem Field.key_injective {f g : Field} (h : f.key = g.key) : f = g := by
  cases f <;> cases g <;> first | rfl | exact absurd h (by decide)

/-- What is printed for a field, as a value. -/
def value (c : Config) : Field → Value
  | .menuId => .string c.menuId
  | .selectorId => .string c.selectorId
  | .stylesheetId => .string c.stylesheetId
  | .light => .table (Sheet.textFields c.light.fields)
  | .dark => .table (Sheet.textFields c.dark.fields)

def Field.all : List Field := [.menuId, .selectorId, .stylesheetId, .light, .dark]

theorem Field.mem_all (f : Field) : f ∈ all := by cases f <;> decide

theorem Field.nodup_keys : (all.map key).Nodup := by decide

/-- The fields of a printed document, in the order in which they are written. -/
def fieldsOf (selected : Field → Bool) (c : Config) : List (String × Value) :=
  (Field.all.filter selected).map fun f => (f.key, c.value f)

theorem map_filter_fields {α : Type} (selected : Field → Bool) (g : α → Value)
    {fs : List (Field × α)} (h : ∀ f ∈ fs, g f.2 = c.value f.1) :
    (fs.filter fun f => selected f.1).map (fun f => (f.1.key, g f.2))
      = ((fs.map Prod.fst).filter selected).map fun f => (f.key, c.value f) := by
  rw [List.filter_map, List.map_map]
  apply List.map_congr_left
  intro f hf
  simp [h f (List.mem_filter.mp hf).1]

theorem fields_sheet (selected : Field → Bool) (c : Config) :
    (c.sheet selected).fields = c.fieldsOf selected := by
  have hids : ∀ f ∈ c.ids, Value.string f.2 = c.value f.1 := by simp [ids, value]
  have hentries : ∀ f ∈ c.entries,
      Value.table (Sheet.textFields f.2.fields) = c.value f.1 := by simp [entries, value]
  have htexts := map_filter_fields selected Value.string hids
  have htables := map_filter_fields selected
    (fun e : Entry => Value.table (Sheet.textFields e.fields)) hentries
  have hall : Field.all = c.ids.map Prod.fst ++ c.entries.map Prod.fst := rfl
  rw [fieldsOf, hall, List.filter_append, List.map_append, ← htexts, ← htables]
  simp only [Sheet.fields, sheet, Sheet.textFields, List.map_map]
  rfl

theorem keys_fieldsOf (selected : Field → Bool) (c : Config) :
    (c.fieldsOf selected).map Prod.fst = (Field.all.filter selected).map Field.key := by
  simp [fieldsOf]

theorem nodup_keys_fieldsOf (selected : Field → Bool) (c : Config) :
    ((c.fieldsOf selected).map Prod.fst).Nodup := by
  rw [keys_fieldsOf]
  exact Field.nodup_keys.sublist (List.filter_sublist.map _)

theorem lookup?_fieldsOf (selected : Field → Bool) (c : Config) (f : Field) :
    lookup? f.key (c.fieldsOf selected) = if selected f then some (c.value f) else none := by
  cases hf : selected f with
  | true =>
    apply lookup?_of_mem (nodup_keys_fieldsOf selected c)
    exact List.mem_map_of_mem (List.mem_filter.mpr ⟨f.mem_all, hf⟩)
  | false =>
    rw [if_neg Bool.false_ne_true, lookup?_eq_none_iff, keys_fieldsOf]
    intro hmem
    obtain ⟨g, hg, hkey⟩ := List.mem_map.mp hmem
    rw [Field.key_injective hkey] at hg
    simp [hf] at hg

theorem Field.bare_key (f : Field) : Bare f.key := by cases f <;> decide

theorem proper_sheet (selected : Field → Bool) (c : Config) : (c.sheet selected).Proper where
  bare f hf := by
    rw [fields_sheet] at hf
    obtain ⟨g, -, rfl⟩ := List.mem_map.mp hf
    exact g.bare_key
  distinct := by
    rw [fields_sheet]
    exact nodup_keys_fieldsOf selected c
  tables_bare t ht f hf := by
    obtain ⟨e, -, rfl⟩ := List.mem_map.mp ht
    have hkey : f.1 = "label" ∨ f.1 = "path" := by
      simp only [Entry.fields, List.mem_cons, List.not_mem_nil, or_false] at hf
      rcases hf with rfl | rfl
      · exact .inl rfl
      · exact .inr rfl
    rcases hkey with hkey | hkey <;> rw [hkey] <;> decide
  tables_distinct t ht := by
    obtain ⟨e, -, rfl⟩ := List.mem_map.mp ht
    show ["label", "path"].Nodup
    decide

/-! ## Reading it -/

theorem laid_ite {α : Type} {writes : Value → α → Prop} {v : Value} {old new : α} (b : Bool)
    (h : writes v new) :
    Laid writes (if b then some v else none) old (if b then new else old) := by
  cases b with
  | true => exact laid_some_iff.mpr h
  | false => exact laid_none_iff.mpr rfl

theorem writes_fields (e : Entry) : Entry.Writes (.table (Sheet.textFields e.fields)) e :=
  .table rfl rfl

theorem overlays_only (selected : Field → Bool) (c : Config) :
    Overlays {} (c.fieldsOf selected) (c.only selected) where
  menuId := by
    rw [show "menu_id" = Field.menuId.key from rfl, lookup?_fieldsOf]
    exact laid_ite _ rfl
  selectorId := by
    rw [show "selector_id" = Field.selectorId.key from rfl, lookup?_fieldsOf]
    exact laid_ite _ rfl
  stylesheetId := by
    rw [show "stylesheet_id" = Field.stylesheetId.key from rfl, lookup?_fieldsOf]
    exact laid_ite _ rfl
  light := by
    rw [show "light" = Field.light.key from rfl, lookup?_fieldsOf]
    exact laid_ite _ (writes_fields c.light)
  dark := by
    rw [show "dark" = Field.dark.key from rfl, lookup?_fieldsOf]
    exact laid_ite _ (writes_fields c.dark)

theorem ofText_print_only (capital : Bool) (selected : Field → Bool) (c : Config) :
    ofText (c.print capital selected) = .ok (c.only selected) := by
  have hdoc := Sheet.document?_print capital (proper_sheet selected c)
  rw [fields_sheet] at hdoc
  exact (ofText_eq_ok_iff hdoc).mpr (overlays_only selected c)

theorem ofText_print_all (capital : Bool) (c : Config) :
    ofText (c.print capital fun _ => true) = .ok c :=
  ofText_print_only capital (fun _ => true) c

/-- **Printing and reading.** Of printed settings the selected fields are read back as they were,
whatever characters are in them, and the others have their built-in values. Settings printed in
full are read back in full, so no two of them have the same text. -/
theorem ofText_print (capital : Bool) (c : Config) :
    (∀ selected, ofText (c.print capital selected) = .ok (c.only selected)) ∧
    ofText (c.print capital fun _ => true) = .ok c ∧
    ∀ c', (c.print capital fun _ => true) = (c'.print capital fun _ => true) ↔ c = c' := by
  refine ⟨fun selected => ofText_print_only capital selected c, ofText_print_all capital c, ?_⟩
  intro c'
  constructor
  · intro h
    have hread := ofText_print_all capital c
    rw [h, ofText_print_all capital c'] at hread
    exact (Except.ok.inj hread).symm
  · rintro rfl
    rfl

/-- Characters that mean something elsewhere stand for themselves in a printed value. -/
example :
    Config.print true (fun f => f = .menuId || f = .dark)
        { menuId := "\ufeff[\"x\\\"]\n", dark := ⟨"", "# a = 'b'\x7f"⟩ }
      = "menu_id = \"\ufeff[\\\"x\\\\\\\"]\\u000A\"\n[dark]\nlabel = \"\"\n" ++
        "path = \"# a = 'b'\\u007F\"\n" := by
  decide +kernel

end Config
end ThemeMenu
