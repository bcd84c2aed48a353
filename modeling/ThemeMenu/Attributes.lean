/-!
# ThemeMenu.Attributes

The attributes of an element: values by name, in the order in which the names came in. Writing a
name that is present keeps its place, a new name goes to the end, and erasing a name and writing
it again moves it to the end.

* `Attributes.get?`, `Attributes.put`, `Attributes.erase`: look-up, writing and erasing.
* `get?_put`, `get?_erase`: what each does to look-ups.
-/

namespace ThemeMenu

structure Attributes where
  pairs : List (String × String) := []
deriving DecidableEq, Repr, Inhabited

namespace Attributes

/-- The value of the first pair with a name. -/
def value? (name : String) : List (String × String) → Option String
  | [] => none
  | p :: ps => if p.1 = name then some p.2 else value? name ps

def replace (name value : String) : List (String × String) → List (String × String)
  | [] => [(name, value)]
  | p :: ps => if p.1 = name then (name, value) :: ps else p :: replace name value ps

def get? (a : Attributes) (name : String) : Option String := value? name a.pairs

def has (a : Attributes) (name : String) : Bool := (a.get? name).isSome

def put (a : Attributes) (name value : String) : Attributes := ⟨replace name value a.pairs⟩

def erase (a : Attributes) (name : String) : Attributes :=
  ⟨a.pairs.filter fun p => decide (p.1 ≠ name)⟩

def ofList (ps : List (String × String)) : Attributes :=
  ps.foldl (fun a p => a.put p.1 p.2) {}

def names (a : Attributes) : List String := a.pairs.map (·.1)

theorem value?_replace (name value n : String) (ps : List (String × String)) :
    value? n (replace name value ps) = if n = name then some value else value? n ps := by
  induction ps with
  | nil => by_cases h : name = n <;> simp [replace, value?, h, eq_comm]
  | cons p ps ih =>
    by_cases hp : p.1 = name
    · by_cases hn : n = name
      · simp [replace, value?, hp, hn]
      · have h : ¬ name = n := fun e => hn e.symm
        simp [replace, value?, hp, hn, h]
    · by_cases hn : p.1 = n
      · have h : ¬ n = name := fun e => hp (hn.trans e)
        simp [replace, value?, hn, h]
      · simp [replace, value?, hp, hn, ih]

theorem get?_put (a : Attributes) (name value n : String) :
    (a.put name value).get? n = if n = name then some value else a.get? n :=
  value?_replace name value n a.pairs

theorem get?_erase (a : Attributes) (name n : String) :
    (a.erase name).get? n = if n = name then none else a.get? n := by
  obtain ⟨ps⟩ := a
  show value? n (ps.filter _) = if n = name then none else value? n ps
  induction ps with
  | nil => simp [value?]
  | cons p ps ih =>
    by_cases hp : p.1 = name
    · have h : (p :: ps).filter (fun p => decide (p.1 ≠ name))
          = ps.filter (fun p => decide (p.1 ≠ name)) := by simp [hp]
      rw [h, ih]
      by_cases hn : n = name
      · simp [hn]
      · have h' : ¬ p.1 = n := fun e => hn (e.symm.trans hp)
        simp [value?, hn, h']
    · have h : (p :: ps).filter (fun p => decide (p.1 ≠ name))
          = p :: ps.filter (fun p => decide (p.1 ≠ name)) := by simp [hp]
      rw [h, value?, value?, ih]
      by_cases hn : p.1 = n
      · have h' : ¬ n = name := fun e => hp (hn.trans e)
        simp [hn, h']
      · simp [hn]

end Attributes
end ThemeMenu
