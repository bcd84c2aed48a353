import Mathlib.Data.List.Basic
import ThemeMenu.Chooser.Error
import ThemeMenu.Proofs.Text.Numeral
import ThemeMenu.Proofs.Text.Quoted

/-!
# ThemeMenu.Proofs.Page.Message

What a message says about its error. Each message tells the cause by the words around the quoted id,
and since no id reaches past its closing quote, none can put other words there: the error can be
read off the message, with its id and its numbers.

* `PageError.recover?`: reads the error off a message.
* `recover?_message`: every message gives its error back.
* `messages_tell_errors_apart`: so no two errors have one message, with or without their origin.
-/

namespace ThemeMenu
namespace PageError

open Numeral (leading? leading?_toString)

/-- An error that names an element alone, after the words before its id. -/
def recoverElement? (cs : List Char) : Option PageError :=
  match Quoted.read? cs with
  | some (id, r) =>
    if r = " not found in the page".toList then some (.elementNotFound id)
    else if r = " is not a selector".toList then some (.notASelector id)
    else none
  | none => none

/-- A number after some words, and what follows it. -/
def numberAfter? (words : String) (cs : List Char) : Option (Nat × List Char) :=
  (cs.dropPrefix? words.toList).bind leading?

/-- An error that names a position among options, after the words before its id. -/
def recoverPosition? (cs : List Char) : Option PageError :=
  match Quoted.read? cs with
  | none => none
  | some (id, r) =>
    match numberAfter? " has " r with
    | none => none
    | some (len, r) =>
      match numberAfter? " options, index " r with
      | none => none
      | some (index, r) =>
        if r = " is out of range".toList then some (.optionOutOfRange id index len) else none

def recover? (message : String) : Option PageError :=
  match message.toList.dropPrefix? "Element with id ".toList with
  | some cs => recoverElement? cs
  | none => (message.toList.dropPrefix? "Selector ".toList).bind recoverPosition?

theorem dropPrefix?_append (p r : List Char) : (p ++ r).dropPrefix? p = some r := by
  rw [List.dropPrefix?_eq_some_iff]
  exact ⟨p, rfl, beq_self_eq_true p⟩

theorem numberAfter?_append (words : String) (n : Nat) {r : List Char}
    (hr : r.takeWhile Char.isDigit = []) :
    numberAfter? words (words.toList ++ ((toString n).toList ++ r)) = some (n, r) := by
  rw [numberAfter?, dropPrefix?_append, Option.bind_some, leading?_toString n hr]

theorem recover?_element (id words : String) :
    recover? ("Element with id " ++ quote id ++ words)
      = recoverElement? ((quote id).toList ++ words.toList) := by
  simp only [recover?, String.toList_append, List.append_assoc, dropPrefix?_append]

theorem recover?_selector (id words : String) :
    recover? ("Selector " ++ quote id ++ words)
      = recoverPosition? ((quote id).toList ++ words.toList) := by
  have hother : ∀ r, ("Selector ".toList ++ r).dropPrefix? "Element with id ".toList = none :=
    fun _ => rfl
  simp only [recover?, String.toList_append, List.append_assoc, hother, dropPrefix?_append,
    Option.bind_some]

theorem recover?_message (e : PageError) : recover? e.message = some e := by
  cases e with
  | elementNotFound id =>
    show recover? ("Element with id " ++ quote id ++ " not found in the page") = _
    rw [recover?_element]
    simp only [recoverElement?, Quoted.read?_quote, if_true]
  | notASelector id =>
    have hne : " is not a selector".toList ≠ " not found in the page".toList := by decide
    show recover? ("Element with id " ++ quote id ++ " is not a selector") = _
    rw [recover?_element]
    simp only [recoverElement?, Quoted.read?_quote, hne, if_false, if_true]
  | optionOutOfRange id index len =>
    have hwords : (optionOutOfRange id index len).message = "Selector " ++ quote id
        ++ (" has " ++ (toString len ++ (" options, index " ++ (toString index
          ++ " is out of range")))) := by
      show _ ++ _ = _
      simp only [String.append_assoc]
    have hlen : ∀ r, (" options, index ".toList ++ r).takeWhile Char.isDigit = [] := fun _ => rfl
    have hindex : " is out of range".toList.takeWhile Char.isDigit = [] := rfl
    rw [hwords, recover?_selector]
    simp only [recoverPosition?, Quoted.read?_quote, String.toList_append,
      numberAfter?_append " has " len (hlen _), numberAfter?_append " options, index " index hindex,
      if_true]

/-- **Messages tell errors apart.** The message of an error gives back its cause, its id and its
numbers, whatever characters the id is made of. So two errors with one message are one error, and
the word on their origin, which is the same for both, does not change that. -/
theorem messages_tell_errors_apart (e : PageError) :
    recover? e.message = some e ∧
    ∀ e' : PageError, (e.message = e'.message ↔ e = e') ∧
      ((ChooserError.page e).message = (ChooserError.page e').message ↔ e = e') := by
  have hinjective : ∀ e' : PageError, e.message = e'.message ↔ e = e' := by
    intro e'
    constructor
    · intro h
      have hrecover := congrArg recover? h
      rw [recover?_message, recover?_message] at hrecover
      exact Option.some.inj hrecover
    · rintro rfl
      rfl
  refine ⟨recover?_message e, fun e' => ⟨hinjective e', ?_⟩⟩
  rw [← hinjective e']
  exact String.append_right_inj "Page Error: "

/-- An id that goes on like another message after a quote. -/
example :
    message (.elementNotFound "a\" is not a selector") ≠ message (.notASelector "a") := by decide

end PageError
end ThemeMenu
