import ThemeMenu.Text.Quoted
import ThemeMenu.Toml.Text

/-!
# ThemeMenu.Proofs.Text.Quoted

Quoted texts are read back. A quote of the text itself stands behind a backslash, so the first one
that does not is the end, and whatever the text holds, it cannot reach past it.

* `Quoted.read?`: reads a quoted text, and answers what follows it too.
* `number?_toDigits`: the number of a character.
* `rest?_escape`, `read?_quote`: every character and every text is read back.
-/

namespace ThemeMenu
namespace Quoted

open Toml (Reader before hexDigit?)

/-- What one letter after a backslash stands for. -/
def letter : Char → Char
  | 't' => '\t'
  | 'n' => '\n'
  | 'r' => '\r'
  | '0' => '\x00'
  | c => c

/-- The characters with an escape of one letter. -/
def lettered : List Char := ['"', '\\', '\t', '\n', '\r', '\x00']

mutual

/-- A quoted text after its opening quote. -/
def rest? : Reader (List Char)
  | [] => none
  | '"' :: r => some ([], r)
  | '\\' :: 'u' :: '\x7b' :: r => number? 0 r
  | '\\' :: c :: r => before (some (letter c)) (rest? r)
  | c :: r => before (some c) (rest? r)

/-- The same after some digits of the number of a character, which have the value `n`. -/
def number? (n : Nat) : Reader (List Char)
  | [] => none
  | '\x7d' :: r => before (some (Char.ofNat n)) (rest? r)
  | c :: r =>
    match hexDigit? c with
    | some d => number? (16 * n + d) r
    | none => none

end

def read? : Reader String
  | '"' :: r => (rest? r).map fun p => (String.ofList p.1, p.2)
  | _ => none

theorem hexDigit?_digitChar : ∀ d < 16, hexDigit? d.digitChar = some d := by decide

theorem number?_digitChar {d : Nat} (hd : d < 16) (n : Nat) (r : List Char) :
    number? n (d.digitChar :: r) = number? (16 * n + d) r := by
  simp [number?, hexDigit?_digitChar d hd]

/-- By induction on the number, which loses its last digit. -/
theorem number?_toDigits (n : Nat) (r : List Char) :
    number? 0 (Nat.toDigits 16 n ++ r) = number? n r := by
  induction n using Nat.strongRecOn generalizing r with
  | ind n ih =>
    by_cases hn : n < 16
    · rw [Nat.toDigits_of_lt_base hn, List.singleton_append, number?_digitChar hn]
      simp
    · have hdiv : n / 16 < n := by omega
      have hmod : n % 16 < 16 := by omega
      have hsum : 16 * (n / 16) + n % 16 = n := by omega
      rw [Nat.toDigits_of_base_le (by decide) (by omega), List.append_assoc, ih _ hdiv,
        List.singleton_append, number?_digitChar hmod, hsum]

theorem rest?_letter {x : Char} (hx : x ≠ 'u') (r : List Char) :
    rest? ('\\' :: x :: r) = before (some (letter x)) (rest? r) := by
  simp [rest?, hx]

theorem rest?_plain {c : Char} (hq : c ≠ '"') (hb : c ≠ '\\') (r : List Char) :
    rest? (c :: r) = before (some c) (rest? r) := by
  simp [rest?, hb]

theorem exists_letter {c : Char} (h : c ∈ lettered) :
    ∃ x, x ≠ 'u' ∧ escape c = ['\\', x] ∧ letter x = c := by
  simp only [lettered, List.mem_cons, List.not_mem_nil, or_false] at h
  rcases h with rfl | rfl | rfl | rfl | rfl | rfl
  all_goals exact ⟨_, by decide, rfl, rfl⟩

theorem escape_of_not_lettered {c : Char} (h : c ∉ lettered) :
    escape c = if isUnprintable c then numbered c else [c] := by
  simp only [lettered, List.mem_cons, List.not_mem_nil, or_false, not_or] at h
  simp [escape, h]

theorem rest?_escape (c : Char) (r : List Char) :
    rest? (escape c ++ r) = before (some c) (rest? r) := by
  by_cases hl : c ∈ lettered
  · obtain ⟨x, hx, hescape, hletter⟩ := exists_letter hl
    rw [hescape, ← hletter]
    exact rest?_letter hx r
  · rw [escape_of_not_lettered hl]
    simp only [lettered, List.mem_cons, not_or] at hl
    split
    · simp only [numbered, List.cons_append, List.append_assoc, rest?, number?_toDigits, number?,
        List.nil_append, Char.ofNat_toNat]
    · exact rest?_plain hl.1 hl.2.1 r

theorem rest?_escapes (s r : List Char) :
    rest? (s.flatMap escape ++ '"' :: r) = some (s, r) := by
  induction s with
  | nil => rfl
  | cons c s ih =>
    rw [List.flatMap_cons, List.append_assoc, rest?_escape, ih]
    rfl

theorem read?_quote (s : String) (r : List Char) :
    read? ((quote s).toList ++ r) = some (s, r) := by
  have hrest := rest?_escapes s.toList r
  rw [toList_quote, List.cons_append, List.append_assoc, read?]
  simp [hrest]

end Quoted
end ThemeMenu
