import ThemeMenu.App.Session
import ThemeMenu.App.Setup

/-!
# ThemeMenu.App.Run

A run of the application with its shipped settings: it is shown once with an empty menu, the
select is put in, and then each change event of the select is answered.

* `App.afterEvents`: the session after some events.
* `App.frames`: what is on screen after each step, with what was reported since the last.
-/

namespace ThemeMenu
namespace App

structure Frame where
  html : String
  logs : List Log.Line
deriving DecidableEq, Repr

/-- What a session shows, after the given reports. -/
def frame (s : Session) (logs : List Log.Line) : Frame :=
  ⟨Html.renderAll s.html, logs ++ s.htmlLog⟩

def start : Session := Session.ofConfig Setup.shipped

def afterEvents (events : List String) : Session := events.foldl Session.pick start.install

/-- The frames of the events that follow in a session. -/
def eventFrames (s : Session) : List String → List Frame
  | [] => []
  | value :: values =>
    frame (s.pick value) (s.pickLog value) :: eventFrames (s.pick value) values

def frames (events : List String) : List Frame :=
  frame start Setup.shippedLog :: frame start.install start.installLog
    :: eventFrames start.install events

end App
end ThemeMenu
