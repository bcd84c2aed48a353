import ThemeMenu.Toml.Inline
import ThemeMenu.Toml.Moment
import ThemeMenu.Toml.Number

/-!
# ThemeMenu.Toml.Reader

Reading values. Arrays and inline tables may be nested to a depth of 127. Between the items of an
array line ends and comments may stand; an inline table stays on its line.

* `Toml.scalar`: strings, numbers, truth values, dates and times.
* `Toml.items`, `Toml.fields`: the inside of arrays and inline tables.
* `Toml.value`: any value, at most so many levels deep.
-/

namespace ThemeMenu
namespace Toml

/-- The greatest depth of arrays and inline tables. -/
def depthLimit : Nat := 127

/-- The value of a token that is no date and no time. -/
def word? (token : List Char) : Option Value :=
  match token with
  | ['t', 'r', 'u', 'e'] => some (.boolean true)
  | ['f', 'a', 'l', 's', 'e'] => some (.boolean false)
  | token =>
    match float? token with
    | some x => some (.float x)
    | none =>
      match integer? token with
      | some n => some (.integer n)
      | none => none

/-- After a date, a space and a digit start its time. -/
def afterDate : List Char → Option (List Char)
  | ' ' :: c :: r =>
    if isDigit c then
      if isTimeWithOffset ((c :: r).takeWhile isToken) then some ((c :: r).dropWhile isToken)
      else none
    else some (' ' :: c :: r)
  | r => some r

def token (cs : List Char) : Option (Value × List Char) :=
  let t := cs.takeWhile isToken
  let r := cs.dropWhile isToken
  if date? t = some [] then
    match afterDate r with
    | some r => some (.moment, r)
    | none => none
  else if isMoment t then some (.moment, r)
  else
    match word? t with
    | some v => some (v, r)
    | none => none

def scalar (cs : List Char) : Option (Value × List Char) :=
  match cs with
  | '"' :: _ | '\x27' :: _ =>
    match text cs with
    | some (s, r) => some (.string s, r)
    | none => none
  | _ => token cs

/-- The items of an array up to the closing bracket; a comma may stand after the last one. The
number bounds the count of items. -/
def items (item : Reader Value) : Nat → Reader (List Value)
  | 0, _ => none
  | n + 1, cs =>
    match skipBlanks cs with
    | ']' :: r => some ([], r)
    | cs =>
      match item cs with
      | none => none
      | some (v, r) =>
        match skipBlanks r with
        | ']' :: r => some ([v], r)
        | ',' :: r =>
          match items item n r with
          | some (vs, r) => some (v :: vs, r)
          | none => none
        | _ => none

/-- A key, an equals sign and a value, with the spaces around them. -/
def keyValue (item : Reader Value) (cs : List Char) : Option ((KeyPath × Value) × List Char) :=
  match keyPath keyLimit cs with
  | some (p, '=' :: r) =>
    match item (skipSpaces r) with
    | some (v, r) => some ((p, v), skipSpaces r)
    | none => none
  | _ => none

/-- The fields of an inline table after the first, up to the closing brace. -/
def moreFields (item : Reader Value) : Nat → Reader (List (KeyPath × Value))
  | _, '\x7d' :: r => some ([], r)
  | n + 1, ',' :: r =>
    match keyValue item r with
    | some (f, r) =>
      match moreFields item n r with
      | some (fs, r) => some (f :: fs, r)
      | none => none
    | none => none
  | _, _ => none

/-- The fields of an inline table up to the closing brace. -/
def fields (item : Reader Value) (cs : List Char) : Option (List (KeyPath × Value) × List Char) :=
  match skipSpaces cs with
  | '\x7d' :: r => some ([], r)
  | cs =>
    match keyValue item cs with
    | some (f, r) =>
      match moreFields item r.length r with
      | some (fs, r) => some (f :: fs, r)
      | none => none
    | none => none

/-- Reads a value in which arrays and inline tables are at most so many levels deep. -/
def value : Nat → Reader Value
  | depth + 1, '[' :: r =>
    match items (value depth) (r.length + 1) r with
    | some (vs, r) => some (.array vs, r)
    | none => none
  | depth + 1, '\x7b' :: r =>
    match fields (value depth) r with
    | some (fs, r) =>
      match inlineTable? fs with
      | some table => some (.table table, r)
      | none => none
    | none => none
  | _, cs => scalar cs

end Toml
end ThemeMenu
