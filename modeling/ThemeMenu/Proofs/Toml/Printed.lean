import ThemeMenu.Toml.Document
import ThemeMenu.Toml.Printer

/-!
# ThemeMenu.Proofs.Toml.Printed

What was printed is read back. A text between double quotes may hold any characters, whatever they
mean elsewhere: the escapes leave no quote, no backslash and no control character in it, and a
quote is followed by the end of the line, so the reader never takes it for the start of a string
over several lines.

* `Toml.Bare`: keys that need no quotes.
* `Toml.basic_escape`, `Toml.value_basicString`: strings are read back.
* `Toml.statement_field`, `Toml.statement_header`: so are single lines.
* `Toml.statements?_lines`: and so are all lines of a document.
-/

namespace ThemeMenu
namespace Toml

section Strings

variable {capital : Bool} {r : List Char}

/-- The four digits of a control character give its number back. -/
theorem fourDigits_control (capital : Bool) :
    ∀ n < 0x80, ∃ a b c d, fourDigits capital n = [a, b, c, d] ∧
      numbered? [a, b, c, d] = some (Char.ofNat n) := by
  have h : ∀ capital, ∀ n < 0x80, (fourDigits capital n).length = 4 ∧
      numbered? (fourDigits capital n) = some (Char.ofNat n) := by decide +kernel
  intro n hn
  obtain ⟨hlen, hnum⟩ := h capital n hn
  match hds : fourDigits capital n, hlen with
  | [a, b, c, d], _ =>
    rw [hds] at hnum
    exact ⟨a, b, c, d, rfl, hnum⟩

theorem isPlain_of_escape {c : Char} (h : ¬ (c.toNat < 0x20 ∨ c.toNat = 0x7f)) :
    isPlain c = true := by
  obtain ⟨hlow, hdel⟩ := not_or.mp h
  have hle : ' ' ≤ c := by
    show ' '.toNat ≤ c.toNat
    exact Nat.le_of_not_lt hlow
  have hne : c ≠ '\x7f' := by
    rintro rfl
    exact hdel rfl
  simp [isPlain, hle, hne]

theorem basic_plain {c : Char} (hq : c ≠ '"') (hb : c ≠ '\\') (hp : isPlain c = true) :
    basic (c :: r) = before (some c) (basic r) := by
  rw [basic.eq_def]
  split <;> simp_all

/-- Whatever the escapes stand for, the reader answers the character they were made from. -/
theorem basic_escape (capital : Bool) (c : Char) (r : List Char) :
    basic (escape capital c ++ r) = before (some c) (basic r) := by
  unfold escape
  split
  · subst_vars
    simp [basic, escaped?]
  · split
    · subst_vars
      simp [basic, escaped?]
    · split
      · rename_i hcontrol
        have hlt : c.toNat < 0x80 := by omega
        obtain ⟨x, y, z, w, hds, hnum⟩ := fourDigits_control capital c.toNat hlt
        rw [Char.ofNat_toNat] at hnum
        simp [hds, basic, hnum]
      · rename_i hq hb hcontrol
        exact basic_plain hq hb (isPlain_of_escape hcontrol)

theorem basic_flatMap_escape (capital : Bool) (s r : List Char) :
    basic (s.flatMap (escape capital) ++ '"' :: r) = some (s, r) := by
  induction s with
  | nil => simp [basic]
  | cons c s ih =>
    rw [List.flatMap_cons, List.append_assoc, basic_escape, ih]
    rfl

theorem escape_ne_quote (capital : Bool) (c : Char) :
    ∃ d ds, escape capital c = d :: ds ∧ d ≠ '"' := by
  unfold escape
  split
  · exact ⟨_, _, rfl, by decide⟩
  · split
    · exact ⟨_, _, rfl, by decide⟩
    · split
      · exact ⟨_, _, rfl, by decide⟩
      · exact ⟨c, [], rfl, ‹c ≠ '"'›⟩

/-- A quote opens a string of one line unless two more follow it. -/
theorem chars_quote {r : List Char} (h : ∀ r', r ≠ '"' :: '"' :: r') :
    chars ('"' :: r) = basic r := by
  rw [chars.eq_def]
  split <;> simp_all

theorem chars_basicString (capital : Bool) (s : String) (h : r.head? ≠ some '"') :
    chars (basicString capital s ++ r) = some (s.toList, r) := by
  have hone : ∀ r', s.toList.flatMap (escape capital) ++ '"' :: r ≠ '"' :: '"' :: r' := by
    intro r'
    cases s.toList with
    | nil =>
      rintro heq
      simp only [List.flatMap_nil, List.nil_append, List.cons.injEq, true_and] at heq
      simp [heq] at h
    | cons c cs =>
      obtain ⟨d, ds, hds, hd⟩ := escape_ne_quote capital c
      simp [hds, hd]
  have happ : basicString capital s ++ r
      = '"' :: (s.toList.flatMap (escape capital) ++ '"' :: r) := by simp [basicString]
  rw [happ, chars_quote hone, basic_flatMap_escape]

theorem value_quote (depth : Nat) (r : List Char) : value depth ('"' :: r) = scalar ('"' :: r) := by
  cases depth <;> rfl

theorem value_basicString (capital : Bool) (s : String) (h : r.head? ≠ some '"') :
    value depthLimit (basicString capital s ++ r) = some (.string s, r) := by
  have htext : text (basicString capital s ++ r) = some (s, r) := by
    rw [text, chars_basicString capital s h]
    simp
  have happ : basicString capital s ++ r
      = '"' :: (s.toList.flatMap (escape capital) ++ '"' :: r) := by simp [basicString]
  rw [happ] at htext ⊢
  rw [value_quote]
  simp only [scalar, htext]

end Strings

/-! ## Keys -/

/-- A key that needs no quotes. -/
structure Bare (key : String) : Prop where
  ne_nil : key.toList ≠ []
  chars : ∀ c ∈ key.toList, isBareKey c

instance (key : String) : Decidable (Bare key) :=
  decidable_of_iff (key.toList ≠ [] ∧ key.toList.all isBareKey)
    ⟨fun h => ⟨h.1, List.all_eq_true.mp h.2⟩, fun h => ⟨h.ne_nil, List.all_eq_true.mpr h.chars⟩⟩

section Keys

variable {key : String} {r : List Char}

/-- The first character of a bare key starts nothing else. -/
theorem Bare.exists_cons (h : Bare key) :
    ∃ c cs, key.toList = c :: cs ∧ isBareKey c ∧
      c ∉ [' ', '\t', '\n', '\r', '"', '\x27', '#', '[', '\ufeff'] := by
  obtain ⟨c, cs, hkey⟩ := List.exists_cons_of_ne_nil h.ne_nil
  have hc : isBareKey c := h.chars c (by simp [hkey])
  refine ⟨c, cs, hkey, hc, ?_⟩
  intro hmem
  have hnone : ∀ d ∈ [' ', '\t', '\n', '\r', '"', '\x27', '#', '[', '\ufeff'],
      isBareKey d = false := by
    simp [isBareKey]
  rw [hnone c hmem] at hc
  cases hc

theorem Bare.skipSpaces (h : Bare key) (r : List Char) :
    skipSpaces (key.toList ++ r) = key.toList ++ r := by
  obtain ⟨c, cs, hkey, -, hc⟩ := h.exists_cons
  simp only [List.mem_cons, not_or] at hc
  simp [hkey, Toml.skipSpaces, isSpace, hc]

theorem Bare.simpleKey (h : Bare key) {d : Char} (hd : isBareKey d = false) (r : List Char) :
    simpleKey (key.toList ++ d :: r) = some (key, d :: r) := by
  have htake : (key.toList ++ d :: r).takeWhile isBareKey = key.toList := by
    rw [List.takeWhile_append_of_pos h.chars]
    simp [hd]
  have hdrop : (key.toList ++ d :: r).dropWhile isBareKey = d :: r := by
    rw [List.dropWhile_append_of_pos h.chars]
    simp [hd]
  obtain ⟨c, cs, hkey, -, hc⟩ := h.exists_cons
  simp only [List.mem_cons, not_or] at hc
  rw [Toml.simpleKey.eq_def]
  split
  · simp_all
  · simp_all
  · rw [htake, hdrop, if_neg (by simpa using h.ne_nil), String.ofList_toList]

theorem Bare.keyPath (h : Bare key) {d : Char} (hd : isBareKey d = false)
    (hdot : ∀ r', Toml.skipSpaces (d :: r) ≠ '.' :: r') :
    keyPath keyLimit (key.toList ++ d :: r) = some (⟨[], key⟩, Toml.skipSpaces (d :: r)) := by
  -- `hdot` rules out the dot that would go on with the path
  simp only [keyLimit, Toml.keyPath, h.skipSpaces, h.simpleKey hd]

end Keys

/-! ## Lines -/

def Line.key : Line → String
  | .field key _ => key
  | .header key => key

/-- What a line says. -/
def Line.statement : Line → Statement
  | .field key value => .assign ⟨[], key⟩ (.string value)
  | .header key => .header ⟨[], key⟩

section Lines

variable {capital : Bool} {l : Line} {ls : List Line} {key : String} {r : List Char}

theorem statement_field (capital : Bool) (hk : Bare key) (s : String) (r : List Char) :
    statement (key.toList ++ ' ' :: '=' :: ' ' :: (basicString capital s ++ '\n' :: r))
      = some (.assign ⟨[], key⟩ (.string s), '\n' :: r) := by
  have hequals : ∀ cs, skipSpaces (' ' :: '=' :: cs) = '=' :: cs := by simp [skipSpaces, isSpace]
  have hend : skipSpaces ('\n' :: r) = '\n' :: r := by simp [skipSpaces, isSpace]
  have hpath := hk.keyPath (d := ' ') (r := '=' :: ' ' :: (basicString capital s ++ '\n' :: r))
    (by decide) (by simp [hequals])
  have hvalue : value depthLimit (skipSpaces (' ' :: (basicString capital s ++ '\n' :: r)))
      = some (.string s, '\n' :: r) := by
    rw [← value_basicString capital s (r := '\n' :: r) (by simp)]
    simp [skipSpaces, basicString, isSpace]
  rw [hequals] at hpath
  have hkv : keyValue (value depthLimit)
      (key.toList ++ ' ' :: '=' :: ' ' :: (basicString capital s ++ '\n' :: r))
      = some ((⟨[], key⟩, .string s), '\n' :: r) := by
    simp only [keyValue, hpath, hvalue, hend]
  obtain ⟨c, cs, hkey, -, hc⟩ := hk.exists_cons
  simp only [List.mem_cons, not_or] at hc
  rw [statement.eq_def]
  split
  · simp_all
  · simp_all
  · rw [hkv]

theorem statement_header (hk : Bare key) (r : List Char) :
    statement ('[' :: (key.toList ++ ']' :: '\n' :: r)) = some (.header ⟨[], key⟩, '\n' :: r) := by
  have hpath := hk.keyPath (d := ']') (r := '\n' :: r) (by decide) (by simp [skipSpaces, isSpace])
  have hend : skipSpaces (']' :: '\n' :: r) = ']' :: '\n' :: r := by simp [skipSpaces, isSpace]
  rw [hend] at hpath
  obtain ⟨c, cs, hkey, -, hc⟩ := hk.exists_cons
  simp only [List.mem_cons, not_or] at hc
  rw [statement.eq_def]
  split
  · simp_all
  · simp_all
  · simp_all

/-- A printed line is one statement, up to its line end. -/
theorem statement_chars (capital : Bool) (h : Bare l.key) (r : List Char) :
    statement (l.chars capital ++ r) = some (l.statement, '\n' :: r) := by
  cases l with
  | field key s =>
    have hk : Bare key := h
    rw [Line.statement, ← statement_field capital hk s r]
    simp [Line.chars]
  | header key =>
    have hk : Bare key := h
    rw [Line.statement, ← statement_header hk r]
    simp [Line.chars]

/-- A printed line begins with neither a blank nor a comment nor a byte order mark. -/
theorem Line.exists_chars_cons (capital : Bool) (h : Bare l.key) :
    ∃ c cs, l.chars capital = c :: cs ∧ c ∉ [' ', '\t', '\n', '\r', '#', '\ufeff'] := by
  cases l with
  | field key s =>
    have hk : Bare key := h
    obtain ⟨c, cs, hkey, -, hc⟩ := hk.exists_cons
    have hsub : ∀ d ∈ [' ', '\t', '\n', '\r', '#', '\ufeff'],
        d ∈ [' ', '\t', '\n', '\r', '"', '\x27', '#', '[', '\ufeff'] := by simp
    exact ⟨c, _, by rw [Line.chars, hkey, List.cons_append], fun hmem => hc (hsub c hmem)⟩
  | header key => exact ⟨'[', _, rfl, by decide⟩

theorem lines?_cons (h : Bare l.key) (n : Nat) (r : List Char) :
    lines? (n + 1) (l.chars capital ++ r) = (lines? n r).map (l.statement :: ·) := by
  have hs := statement_chars capital h r
  have hend : lineEnd? ('\n' :: r) = some r := by
    simp [lineEnd?, skipSpaces, isSpace, lineBreak?, newline?]
  obtain ⟨c, cs, hl, hc⟩ := Line.exists_chars_cons capital h
  simp only [List.mem_cons, List.not_mem_nil, or_false, not_or] at hc
  rw [hl, List.cons_append] at hs ⊢
  have hskip : skipSpaces (c :: (cs ++ r)) = c :: (cs ++ r) := by simp [skipSpaces, isSpace, hc]
  have hnew : newline? (c :: (cs ++ r)) = none := by
    rw [newline?.eq_def]
    split <;> simp_all
  simp only [lines?, hskip]
  split
  · simp_all
  · simp_all
  · simp only [hnew, hs, hend]
    cases lines? n r <;> rfl

theorem lines?_flatMap_chars (capital : Bool) (h : ∀ l ∈ ls, Bare l.key) {n : Nat}
    (hn : ls.length < n) :
    lines? n (ls.flatMap (Line.chars capital)) = some (ls.map Line.statement) := by
  induction ls generalizing n with
  | nil =>
    cases n with
    | zero => cases hn
    | succ n => rfl
  | cons l ls ih =>
    obtain ⟨hl, hls⟩ := List.forall_mem_cons.mp h
    cases n with
    | zero => cases hn
    | succ n =>
      rw [List.flatMap_cons, lines?_cons hl, ih hls (by simpa using hn)]
      rfl

theorem length_le_length_flatMap (capital : Bool) (h : ∀ l ∈ ls, Bare l.key) :
    ls.length ≤ (ls.flatMap (Line.chars capital)).length := by
  induction ls with
  | nil => simp
  | cons l ls ih =>
    obtain ⟨hl, hls⟩ := List.forall_mem_cons.mp h
    obtain ⟨c, cs, hchars, -⟩ := Line.exists_chars_cons capital hl
    have := ih hls
    simp only [List.length_cons, List.flatMap_cons, List.length_append, hchars]
    omega

theorem withoutMark_flatMap_chars (capital : Bool) (h : ∀ l ∈ ls, Bare l.key) :
    withoutMark (ls.flatMap (Line.chars capital)) = ls.flatMap (Line.chars capital) := by
  cases ls with
  | nil => rfl
  | cons l ls =>
    obtain ⟨c, cs, hl, hc⟩ := Line.exists_chars_cons capital (h l List.mem_cons_self)
    simp only [List.mem_cons, not_or] at hc
    rw [List.flatMap_cons, hl, List.cons_append, withoutMark.eq_def]
    split <;> simp_all

theorem statements?_lines (capital : Bool) (h : ∀ l ∈ ls, Bare l.key) :
    statements? (String.ofList (ls.flatMap (Line.chars capital)))
      = some (ls.map Line.statement) := by
  have hlen := length_le_length_flatMap capital h
  rw [statements?, String.toList_ofList, withoutMark_flatMap_chars capital h]
  apply lines?_flatMap_chars capital h
  rw [String.length_ofList]
  omega

end Lines

end Toml
end ThemeMenu
