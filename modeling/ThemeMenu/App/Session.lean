import ThemeMenu.App.Control
import ThemeMenu.Page.Shell
import ThemeMenu.Chooser.Basic
import ThemeMenu.Text.Numeral

/-!
# ThemeMenu.App.Session

A running application: the chooser on the application's page, and the error that is shown, if
any.

* `Session.install`: puts the select into the menu.
* `Session.pick`: answers a change event. A value that is no numeral changes nothing; else the
  shown error is the error of this change, or none.
* `Session.html`: what is on screen.
-/

namespace ThemeMenu

structure Session where
  chooser : Chooser Shell
  error : Option String := none
deriving DecidableEq

namespace Session

/-- A session before the select is in the menu. -/
def ofConfig (c : Config) : Session := ⟨{ page := Shell.ofConfig c, config := c }, none⟩

def install (s : Session) : Session :=
  let step := s.chooser.install
  match step.result with
  | .ok () => { s with chooser := step.after }
  | .error e => ⟨step.after, some e.message⟩

def installLog (s : Session) : List Log.Line :=
  let step := s.chooser.install
  Log.debug "Initializing theme selector" :: (step.logs ++
    match step.result with
    | .ok () => []
    | .error e => [Log.error ("Error initializing the theme selector: " ++ e.message)])

def pick (s : Session) (value : String) : Session :=
  match numeral? value with
  | none => s
  | some index =>
    let step := s.chooser.change index
    match step.result with
    | .ok _ => ⟨step.after, none⟩
    | .error e => ⟨step.after, some e.message⟩

def pickLog (s : Session) (value : String) : List Log.Line :=
  match numeral? value with
  | none => [Log.warn ("Option value " ++ value ++ " is not an index")]
  | some index =>
    let step := s.chooser.change index
    step.logs ++
      match step.result with
      | .ok _ => []
      | .error e => [Log.error ("Error switching theme: " ++ e.message)]

def errorHtml : Option String → List Html
  | some e => [.element "p" [] [.text e]]
  | none => []

def html (s : Session) : List Html :=
  let page := s.chooser.page
  [.void "link" [.value "id" page.linkId, .value "rel" "stylesheet",
      .value "href" page.href],
    .element "div" [.value "class" "container"]
      [.element "header" [.value "class" "header"]
        [.element "h1" [] [.text "Theme Switcher"],
          .element "div" [.value "id" page.menuId, .value "class" "menu"]
            (page.inMenu.flatMap Control.htmlOf)],
        .element "div" [.value "class" "mainarea"]
          [.element "p" []
            [.text "Pick a theme from the menu to swap the page stylesheet."]],
        .element "footer" [.value "class" "footer"] (errorHtml s.error)]]

/-- What showing the session reports. -/
def htmlLog (s : Session) : List Log.Line :=
  s.chooser.page.inMenu.flatMap Control.skipLog

end Session
end ThemeMenu
