import ThemeMenu.Proofs.Toml.Distinct
import ThemeMenu.Proofs.Toml.Printed

/-!
# ThemeMenu.Proofs.Toml.Sheet

The table of a printed document. Fields go to the table that is open: the document itself before
the first header, then the table of the last header, which stands at the end of the document.

* `Toml.Opens`: the path of the open table leads to a certain place of the document.
* `Toml.foldlM_fieldLines`, `Toml.foldlM_tables`: what fields and whole tables add.
* `Toml.Sheet.document?_print`: a printed document has the fields it was printed from.
-/

namespace ThemeMenu
namespace Toml

namespace Sheet

def textFields (fs : List (String × String)) : List (String × Value) :=
  fs.map fun f => (f.1, .string f.2)

/-- The table that a sheet stands for. -/
def fields (s : Sheet) : List (String × Value) :=
  textFields s.texts ++ s.tables.map fun t => (t.1, .table (textFields t.2))

/-- No key stands twice in one table, and none needs quotes. -/
structure Proper (s : Sheet) : Prop where
  bare : ∀ f ∈ s.fields, Bare f.1
  distinct : (s.fields.map Prod.fst).Nodup
  tables_bare : ∀ t ∈ s.tables, ∀ f ∈ t.2, Bare f.1
  tables_distinct : ∀ t ∈ s.tables, (t.2.map Prod.fst).Nodup

end Sheet

section Build

variable {fs sub : List (String × Node)} {cur : List String} {key : String}

def textNodes (ts : List (String × String)) : List (String × Node) :=
  ts.map fun t => (t.1, .value (.string t.2))

def tableNodes (ts : List (String × List (String × String))) : List (String × Node) :=
  ts.map fun t => (t.1, .table .headed (textNodes t.2))

@[simp] theorem keys_textNodes (ts : List (String × String)) :
    (textNodes ts).map Prod.fst = ts.map Prod.fst := by
  simp [textNodes]

theorem insertNew?_of_not_mem {β : Type} {fs : List (String × β)} (v : β)
    (h : key ∉ fs.map Prod.fst) : insertNew? key v fs = some (fs ++ [(key, v)]) := by
  rw [insertNew?, lookup?_eq_none_iff.mpr h]

theorem alter?_last {β : Type} {fs : List (String × β)} (f : Option β → Option β) (v : β)
    (h : key ∉ fs.map Prod.fst) :
    alter? key f (fs ++ [(key, v)]) = (f (some v)).map fun w => fs ++ [(key, w)] := by
  induction fs with
  | nil =>
    simp only [List.nil_append, alter?, if_true]
    cases f (some v) <;> rfl
  | cons g fs ih =>
    simp only [List.map_cons, List.mem_cons, not_or] at h
    simp only [List.cons_append, alter?, Ne.symm h.1, if_false, ih h.2]
    cases f (some v) <;> rfl

/-- The path leads to a table at a place of the document; `put` is the document around it. -/
def Opens (cur : List String) (put : List (String × Node) → List (String × Node)) : Prop :=
  ∀ f sub, within? f cur (put sub) = (f sub).map put

theorem opens_document : Opens [] fun fs => fs := by
  intro f sub
  simp [within?]

theorem opens_last (h : key ∉ fs.map Prod.fst) :
    Opens [key] fun sub => fs ++ [(key, .table .headed sub)] := by
  intro f sub
  rw [within?, alter?_last _ _ h]
  simp only [within?]
  cases f sub <;> rfl

theorem step?_field {put : List (String × Node) → List (String × Node)} (h : Opens cur put)
    (hk : key ∉ sub.map Prod.fst) (s : String) :
    Draft.step? ⟨put sub, cur⟩ (Line.field key s).statement
      = some ⟨put (sub ++ [(key, .value (.string s))]), cur⟩ := by
  have hw := h (insert? (.string s) [] key) sub
  rw [insert?, insertNew?_of_not_mem _ hk] at hw
  simp only [Line.statement, Draft.step?, hw]
  rfl

theorem step?_header (h : key ∉ fs.map Prod.fst) :
    Draft.step? ⟨fs, cur⟩ (Line.header key).statement
      = some ⟨fs ++ [(key, .table .headed [])], [key]⟩ := by
  simp [Line.statement, Draft.step?, within?, head?, lookup?_eq_none_iff.mpr h]

theorem foldlM_fieldLines {put : List (String × Node) → List (String × Node)} (h : Opens cur put)
    {ts : List (String × String)} (hd : (sub.map Prod.fst ++ ts.map Prod.fst).Nodup) :
    ((Sheet.fieldLines ts).map Line.statement).foldlM Draft.step? ⟨put sub, cur⟩
      = some ⟨put (sub ++ textNodes ts), cur⟩ := by
  induction ts generalizing sub with
  | nil => simp [Sheet.fieldLines, textNodes]
  | cons t ts ih =>
    obtain ⟨-, -, hdisjoint⟩ := List.nodup_append.mp hd
    have hk : t.1 ∉ sub.map Prod.fst := fun hmem => hdisjoint _ hmem _ (by simp) rfl
    have hd' : ((sub ++ [(t.1, Node.value (.string t.2))]).map Prod.fst
        ++ ts.map Prod.fst).Nodup := by simpa using hd
    have hstep := step?_field h hk t.2
    have htail := ih hd'
    simp only [Sheet.fieldLines, List.map_cons, List.foldlM_cons, hstep] at htail ⊢
    simp only [Option.bind_eq_bind, Option.bind_some]
    rw [htail]
    simp [textNodes]

/-- A header opens a new table at the end, and its fields go there. -/
theorem foldlM_table (hk : key ∉ fs.map Prod.fst) {ts : List (String × String)}
    (hd : (ts.map Prod.fst).Nodup) :
    ((Line.header key :: Sheet.fieldLines ts).map Line.statement).foldlM Draft.step? ⟨fs, cur⟩
      = some ⟨fs ++ [(key, .table .headed (textNodes ts))], [key]⟩ := by
  have hd' : (([] : List (String × Node)).map Prod.fst ++ ts.map Prod.fst).Nodup := hd
  have hfields := foldlM_fieldLines (opens_last hk) hd'
  rw [List.map_cons, List.foldlM_cons, step?_header hk]
  simpa using hfields

theorem foldlM_tables (cur : List String) {ts : List (String × List (String × String))}
    (hd : (fs.map Prod.fst ++ ts.map Prod.fst).Nodup)
    (hts : ∀ t ∈ ts, (t.2.map Prod.fst).Nodup) :
    ∃ cur', ((ts.flatMap fun t => .header t.1 :: Sheet.fieldLines t.2).map
        Line.statement).foldlM Draft.step? ⟨fs, cur⟩ = some ⟨fs ++ tableNodes ts, cur'⟩ := by
  induction ts generalizing fs cur with
  | nil => exact ⟨cur, by simp [tableNodes]⟩
  | cons t ts ih =>
    obtain ⟨ht, hts⟩ := List.forall_mem_cons.mp hts
    obtain ⟨-, -, hdisjoint⟩ := List.nodup_append.mp hd
    have hk : t.1 ∉ fs.map Prod.fst := fun hmem => hdisjoint _ hmem _ (by simp) rfl
    have hd' : ((fs ++ [(t.1, Node.table .headed (textNodes t.2))]).map Prod.fst
        ++ ts.map Prod.fst).Nodup := by simpa using hd
    obtain ⟨cur', htail⟩ := ih [t.1] hd' hts
    refine ⟨cur', ?_⟩
    rw [List.flatMap_cons, List.map_append, List.foldlM_append, foldlM_table hk ht]
    simp only [Option.bind_eq_bind, Option.bind_some]
    rw [htail]
    simp [tableNodes]

end Build

namespace Sheet

variable {s : Sheet}

theorem toFields_textNodes (ts : List (String × String)) :
    toFields (textNodes ts) = textFields ts := by
  rw [toFields_eq_map]
  simp [textNodes, textFields, Node.toValue]

theorem toFields_nodes (s : Sheet) :
    toFields (textNodes s.texts ++ tableNodes s.tables) = s.fields := by
  have htexts := toFields_textNodes s.texts
  rw [toFields_eq_map] at htexts ⊢
  rw [List.map_append, htexts]
  simp [tableNodes, fields, Node.toValue, toFields_textNodes]

theorem keys_fields (s : Sheet) :
    s.fields.map Prod.fst = s.texts.map Prod.fst ++ s.tables.map Prod.fst := by
  rw [fields, textFields, List.map_append, List.map_map, List.map_map]
  rfl

theorem Proper.bare_lines (h : s.Proper) : ∀ l ∈ s.lines, Bare l.key := by
  intro l hl
  rcases List.mem_append.mp hl with hl | hl
  · obtain ⟨f, hf, rfl⟩ := List.mem_map.mp hl
    exact h.bare (f.1, .string f.2) (List.mem_append_left _ (List.mem_map.mpr ⟨f, hf, rfl⟩))
  · obtain ⟨t, ht, hl⟩ := List.mem_flatMap.mp hl
    rcases List.mem_cons.mp hl with rfl | hl
    · exact h.bare (t.1, .table (textFields t.2))
        (List.mem_append_right _ (List.mem_map.mpr ⟨t, ht, rfl⟩))
    · obtain ⟨f, hf, rfl⟩ := List.mem_map.mp hl
      exact h.tables_bare t ht f hf

theorem build?_lines (h : s.Proper) : build? (s.lines.map Line.statement) = some s.fields := by
  have hkeys := h.distinct
  rw [keys_fields] at hkeys
  have hkeys' : (([] : List (String × Node)).map Prod.fst ++ s.texts.map Prod.fst).Nodup :=
    (List.nodup_append.mp hkeys).1
  rw [← keys_textNodes] at hkeys
  have htexts := foldlM_fieldLines opens_document hkeys'
  obtain ⟨cur, htables⟩ := foldlM_tables [] hkeys h.tables_distinct
  have hall : (s.lines.map Line.statement).foldlM Draft.step? {}
      = some ⟨textNodes s.texts ++ tableNodes s.tables, cur⟩ := by
    rw [lines, List.map_append, List.foldlM_append]
    rw [show ({} : Draft) = ⟨[], []⟩ from rfl, htexts]
    exact htables
  rw [build?, hall, ← toFields_nodes]

/-- A printed document is read as the table it stands for. -/
theorem document?_print (capital : Bool) (h : s.Proper) :
    document? (s.print capital) = some s.fields := by
  rw [document?, print, statements?_lines capital h.bare_lines]
  exact build?_lines h

end Sheet

end Toml
end ThemeMenu
