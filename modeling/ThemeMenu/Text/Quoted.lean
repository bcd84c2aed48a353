import ThemeMenu.Text.Unprintable

/-!
# ThemeMenu.Text.Quoted

Quoted text: a string between double quotes in which every character that could be mistaken or
missed is escaped. A quote and a backslash are escaped by a backslash, the four named controls by
a letter, every other unprintable character by its number in hexadecimal, as in `\u{7f}`.

* `quote`: the quoted text of a string.
* `escape`: what stands for one character.
-/

namespace ThemeMenu
namespace Quoted

/-- The number of a character between braces, in lower case hexadecimal without leading zeros. -/
def numbered (c : Char) : List Char :=
  '\\' :: 'u' :: '\x7b' :: (Nat.toDigits 16 c.toNat ++ ['\x7d'])

def escape (c : Char) : List Char :=
  if c = '"' then ['\\', '"']
  else if c = '\\' then ['\\', '\\']
  else if c = '\t' then ['\\', 't']
  else if c = '\n' then ['\\', 'n']
  else if c = '\r' then ['\\', 'r']
  else if c = '\x00' then ['\\', '0']
  else if isUnprintable c then numbered c
  else [c]

end Quoted

def quote (s : String) : String :=
  String.ofList ('"' :: (s.toList.flatMap Quoted.escape ++ ['"']))

theorem toList_quote (s : String) :
    (quote s).toList = '"' :: (s.toList.flatMap Quoted.escape ++ ['"']) := by
  simp [quote]

end ThemeMenu
