import ThemeMenu.Toml.Statement

/-!
# ThemeMenu.Toml.Draft

Tables under construction. Statements are carried out in order on an empty table; a table
remembers how it came about, because that decides who may still add to it.

* `Toml.Origin`, `Toml.Node`: a table under construction.
* `Toml.head?`, `Toml.append?`, `Toml.insert?`: what the three kinds of statement do to a table.
* `Toml.Draft.step?`: carrying out one statement.
* `Toml.build?`: from statements to the finished table.
-/

namespace ThemeMenu
namespace Toml

/-- How a table came about: by its own header, as a parent in a longer header, or as a parent in
a dotted key. -/
inductive Origin where
  | headed
  | implied
  | dotted
deriving DecidableEq, Repr

inductive Node where
  | value (v : Value)
  | table (origin : Origin) (fields : List (String × Node))
  | tables (items : List (List (String × Node)))

/-- Changes the last of the tables of an array. -/
def alterLast? (f : List (String × Node) → Option (List (String × Node))) :
    List (List (String × Node)) → Option (List (List (String × Node)))
  | [] => none
  | [t] =>
    match f t with
    | some t => some [t]
    | none => none
  | t :: ts =>
    match alterLast? f ts with
    | some ts => some (t :: ts)
    | none => none

/-- Goes down to the table at the end of a path and changes it. Missing tables are implied; of an
array of tables the last one is meant. -/
def within? (f : List (String × Node) → Option (List (String × Node))) :
    List String → List (String × Node) → Option (List (String × Node))
  | [], fs => f fs
  | p :: ps, fs =>
    alter? p (fun found =>
      match found with
      | none => (within? f ps []).map (.table .implied)
      | some (.table origin sub) => (within? f ps sub).map (.table origin)
      | some (.tables ts) => (alterLast? (within? f ps) ts).map .tables
      | some (.value _) => none) fs

/-- A table gets its header. One that was implied so far moves to the end of its parent; any
other that is there already may not get a header again. -/
def head? (key : String) (fs : List (String × Node)) : Option (List (String × Node)) :=
  match lookup? key fs with
  | none => some (fs ++ [(key, .table .headed [])])
  | some (.table .implied sub) => some (remove key fs ++ [(key, .table .headed sub)])
  | some _ => none

/-- An array of tables gets one more table. -/
def append? (key : String) (fs : List (String × Node)) : Option (List (String × Node)) :=
  alter? key (fun found =>
    match found with
    | none => some (.tables [[]])
    | some (.tables ts) => some (.tables (ts ++ [[]]))
    | some _ => none) fs

/-- Puts a value under a dotted key. The key may go through tables that have no header of their
own and through arrays of tables, and must end in a table that dotted keys made. -/
def insert? (v : Value) : List String → String → List (String × Node) →
    Option (List (String × Node))
  | [], key, fs => insertNew? key (.value v) fs
  | p :: ps, key, fs =>
    alter? p (fun found =>
      match found with
      | none => (insert? v ps key []).map (.table .dotted)
      | some (.table .dotted sub) => (insert? v ps key sub).map (.table .dotted)
      | some (.table .implied sub) =>
        if ps.isEmpty then none else (insert? v ps key sub).map (.table .implied)
      | some (.tables ts) =>
        if ps.isEmpty then none else (alterLast? (insert? v ps key) ts).map .tables
      | some (.table .headed _) => none
      | some (.value _) => none) fs

/-- A document under construction, and the path of the table that keys now go to. -/
structure Draft where
  fields : List (String × Node) := []
  current : List String := []

def Draft.step? (d : Draft) : Statement → Option Draft
  | .assign p v =>
    match within? (insert? v p.parents p.last) d.current d.fields with
    | some fs => some { d with fields := fs }
    | none => none
  | .header p =>
    match within? (head? p.last) p.parents d.fields with
    | some fs => some ⟨fs, p.parents ++ [p.last]⟩
    | none => none
  | .item p =>
    match within? (append? p.last) p.parents d.fields with
    | some fs => some ⟨fs, p.parents ++ [p.last]⟩
    | none => none

mutual

def Node.toValue : Node → Value
  | .value v => v
  | .table _ fields => .table (toFields fields)
  | .tables items => .array (toTables items)

def toFields : List (String × Node) → List (String × Value)
  | [] => []
  | (k, n) :: fields => (k, n.toValue) :: toFields fields

def toTables : List (List (String × Node)) → List Value
  | [] => []
  | t :: ts => .table (toFields t) :: toTables ts

end

def build? (ss : List Statement) : Option (List (String × Value)) :=
  match ss.foldlM Draft.step? {} with
  | some d => some (toFields d.fields)
  | none => none

end Toml
end ThemeMenu
