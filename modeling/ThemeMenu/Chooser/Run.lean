import ThemeMenu.Chooser.Basic

/-!
# ThemeMenu.Chooser.Run

Runs of the chooser: the calls a page makes on it, one after the other.

* `Command`: the calls.
* `Chooser.perform`: one call.
* `Chooser.afterAll`, `Chooser.results`: the chooser after a run, and the results on the way.
-/

namespace ThemeMenu

inductive Command where
  | install
  | change (index : Nat)
  | apply (theme : Theme)
deriving DecidableEq, Repr

namespace Chooser

variable {π : Type} [Page π]

/-- Performs a call. Only a change of the selection has a theme to return. -/
def perform (s : Chooser π) : Command → Step (Chooser π) ChooserError (Option Theme)
  | .install => s.install.answering none
  | .change index => s.change index
  | .apply theme => (s.apply theme).answering none

def afterAll (s : Chooser π) (cs : List Command) : Chooser π :=
  cs.foldl (fun s c => (s.perform c).after) s

def results (s : Chooser π) : List Command → List (Except ChooserError (Option Theme))
  | [] => []
  | c :: cs => (s.perform c).result :: results (s.perform c).after cs

theorem afterAll_cons (s : Chooser π) (c : Command) (cs : List Command) :
    s.afterAll (c :: cs) = (s.perform c).after.afterAll cs := rfl

theorem afterAll_append (s : Chooser π) (cs ds : List Command) :
    s.afterAll (cs ++ ds) = (s.afterAll cs).afterAll ds := List.foldl_append

end Chooser
end ThemeMenu
