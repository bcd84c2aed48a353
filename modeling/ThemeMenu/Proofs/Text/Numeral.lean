import ThemeMenu.Text.Numeral

/-!
# ThemeMenu.Proofs.Text.Numeral

Which texts are numerals. A text writes a number when it consists of decimal digits, at least one,
that have this value, perhaps with one plus sign in front; leading zeros do not matter. The reader
takes exactly the numbers written so, up to its limit.

* `Numeral.Writes`: a text and the number it writes.
* `Numeral.writes_toString`: every number is written by its decimal text.
* `numeral?_eq_some_iff`: what the reader answers.
* `Numeral.leading?`, `Numeral.leading?_toString`: a numeral with other text behind it.
-/

namespace ThemeMenu
namespace Numeral

def Writes (s : String) (n : Nat) : Prop :=
  ∃ ds : List Char, ds ≠ [] ∧ (∀ c ∈ ds, c.isDigit) ∧
    (s.toList = ds ∨ s.toList = '+' :: ds) ∧ Nat.ofDigitChars 10 ds 0 = n

theorem digitValue?_eq (c : Char) :
    digitValue? c = if c.isDigit then some (c.toNat - '0'.toNat) else none := by
  simp [digitValue?, Char.isDigit, Char.le_def]

theorem digitsFrom?_eq_some_iff {cs : List Char} {acc n : Nat} :
    digitsFrom? acc cs = some n ↔ (∀ c ∈ cs, c.isDigit) ∧ Nat.ofDigitChars 10 cs acc = n := by
  induction cs generalizing acc with
  | nil => simp [digitsFrom?]
  | cons c cs ih =>
    simp only [digitsFrom?, digitValue?_eq]
    by_cases hc : c.isDigit
    · simp [hc, ih, Nat.ofDigitChars_cons]
    · simp [hc]

theorem digits?_eq_some_iff {cs : List Char} {n : Nat} :
    digits? cs = some n ↔
      cs ≠ [] ∧ (∀ c ∈ cs, c.isDigit) ∧ Nat.ofDigitChars 10 cs 0 = n := by
  cases cs with
  | nil => simp [digits?]
  | cons c cs =>
    rw [digits?, digitsFrom?_eq_some_iff]
    · simp
    · exact List.cons_ne_nil c cs

theorem unsigned_of_digits {ds : List Char} (h : ∀ c ∈ ds, c.isDigit) : unsigned ds = ds := by
  cases ds with
  | nil => rfl
  | cons c cs =>
    have hc : c ≠ '+' := by
      rintro rfl
      exact absurd (h '+' List.mem_cons_self) (by decide)
    simp [unsigned, hc]

theorem eq_unsigned_or (cs : List Char) : cs = unsigned cs ∨ cs = '+' :: unsigned cs := by
  unfold unsigned
  split
  · exact .inr rfl
  · exact .inl rfl

theorem writes_iff {s : String} {n : Nat} : Writes s n ↔ digits? (unsigned s.toList) = some n := by
  rw [digits?_eq_some_iff]
  constructor
  · rintro ⟨ds, hne, hds, hs | hs, hv⟩
    · rw [hs, unsigned_of_digits hds]
      exact ⟨hne, hds, hv⟩
    · rw [hs]
      exact ⟨hne, hds, hv⟩
  · rintro ⟨hne, hds, hv⟩
    exact ⟨unsigned s.toList, hne, hds, eq_unsigned_or s.toList, hv⟩

theorem writes_toString (n : Nat) : Writes (toString n) n := by
  have hdigits : (toString n).toList = Nat.toDigits 10 n := by
    rw [Nat.toString_eq_repr, Nat.toList_repr]
  refine ⟨Nat.toDigits 10 n, Nat.toDigits_ne_nil, ?_, .inl hdigits, ?_⟩
  · intro c hc
    exact Nat.isDigit_of_mem_toDigits (by decide) (by decide) hc
  · rw [Nat.ofDigitChars_toDigits (by decide) (by decide)]

end Numeral

open Numeral in
theorem numeral?_eq_some_iff {s : String} {n : Nat} :
    numeral? s = some n ↔ Writes s n ∧ n ≤ limit := by
  rw [writes_iff, numeral?]
  cases digits? (unsigned s.toList) with
  | none => simp
  | some m =>
    simp only [Option.some.injEq]
    split
    · rename_i hm
      constructor
      · intro h
        cases h
        exact ⟨rfl, hm⟩
      · rintro ⟨rfl, -⟩
        rfl
    · rename_i hm
      constructor
      · intro h
        cases h
      · rintro ⟨rfl, hle⟩
        exact absurd hle hm

namespace Numeral

/-- The digits that a text starts with, as a number, and what follows them. -/
def leading? (cs : List Char) : Option (Nat × List Char) :=
  (digits? (cs.takeWhile Char.isDigit)).map fun n => (n, cs.dropWhile Char.isDigit)

theorem leading?_toString (n : Nat) {r : List Char} (hr : r.takeWhile Char.isDigit = []) :
    leading? ((toString n).toList ++ r) = some (n, r) := by
  have hdigits : (toString n).toList = Nat.toDigits 10 n := by
    rw [Nat.toString_eq_repr, Nat.toList_repr]
  have hall : ∀ c ∈ Nat.toDigits 10 n, c.isDigit = true := fun c hc =>
    Nat.isDigit_of_mem_toDigits (by decide) (by decide) hc
  have hvalue : digits? (Nat.toDigits 10 n) = some n :=
    digits?_eq_some_iff.2 ⟨Nat.toDigits_ne_nil, hall, Nat.ofDigitChars_ten_toDigits⟩
  have hrest : r.dropWhile Char.isDigit = r := by
    simpa [hr] using List.takeWhile_append_dropWhile (p := Char.isDigit) (l := r)
  rw [hdigits, leading?, List.takeWhile_append_of_pos hall, List.dropWhile_append_of_pos hall, hr,
    hrest, List.append_nil, hvalue, Option.map_some]

end Numeral
end ThemeMenu
