import ThemeMenu.Proofs.Chooser.Calls
import ThemeMenu.Proofs.Page.Mirror

/-!
# ThemeMenu.Proofs.Chooser.Simulation

One chooser on two kinds of page. On a page that mirrors another one under the ids of the menu and
the link, the calls of a chooser give the same results, and the pages mirror each other afterwards.
The application's page and the document it stands for are such a pair, and stay one while the page
is also read and written directly.

* `Chooser.map`, `Chooser.perform_map`: a call on a mirrored page.
* `Request`: calls, and reads and writes of the page by id.
* `Shell.simulates_document`: every run of requests, on both pages.
-/

namespace ThemeMenu

def Chooser.map {π ρ : Type} (φ : π → ρ) (s : Chooser π) : Chooser ρ :=
  ⟨φ s.page, s.config, s.selected, s.installed⟩

namespace Chooser

section Map

variable {π ρ : Type} [Page π] [Page ρ] {φ : π → ρ} {s : Chooser π}

/-- What is read from a stylesheet link is the same on both pages. -/
theorem href_map (hl : Page.Mirrors φ s.page s.config.stylesheetId) :
    Page.getAttribute (s.map φ).page (s.map φ).config.stylesheetId "href"
      = Page.getAttribute s.page s.config.stylesheetId "href" := hl.getAttribute "href"

theorem linkedTheme_map (hl : Page.Mirrors φ s.page s.config.stylesheetId) :
    (s.map φ).linkedTheme = s.linkedTheme := by
  rw [linkedTheme, href_map hl]
  rfl

theorem linkedThemeLog_map (hl : Page.Mirrors φ s.page s.config.stylesheetId) :
    (s.map φ).linkedThemeLog = s.linkedThemeLog := by
  rw [linkedThemeLog, href_map hl]
  rfl

theorem install_map (hm : Page.Mirrors φ s.page s.config.menuId)
    (hl : Page.Mirrors φ s.page s.config.stylesheetId) :
    (s.map φ).install = s.install.map (Chooser.map φ) := by
  have hi : (s.map φ).installed = s.installed := rfl
  have hwrite : Page.appendChild (s.map φ).page (s.map φ).config.menuId
      (selectFor (s.map φ).config s.linkedTheme)
      = (Page.appendChild s.page s.config.menuId (selectFor s.config s.linkedTheme)).map φ :=
    hm.edit _
  cases hs : s.installed with
  | true => simp [install, hi, hs, Step.map]
  | false =>
    simp only [install, hi, hs, Bool.false_eq_true, if_false, linkedTheme_map hl,
      linkedThemeLog_map hl, Routine.run_bind, Routine.run_report, Step.andThen_ok, run_onPage,
      hwrite]
    obtain ⟨result, q, logs⟩ :=
      Page.appendChild s.page s.config.menuId (selectFor s.config s.linkedTheme)
    cases result <;> rfl

theorem apply_map (hl : Page.Mirrors φ s.page s.config.stylesheetId) (t : Theme) :
    (s.map φ).apply t = (s.apply t).map (Chooser.map φ) := by
  have hwrite : Page.setAttribute (s.map φ).page (s.map φ).config.stylesheetId "href"
      ((s.map φ).catalog.entry t).path
      = (Page.setAttribute s.page s.config.stylesheetId "href" (s.catalog.entry t).path).map φ :=
    hl.edit _
  simp only [apply, applying, Routine.run_bind, Routine.run_get, Step.andThen_ok, run_onPage,
    hwrite]
  obtain ⟨result, q, logs⟩ :=
    Page.setAttribute s.page s.config.stylesheetId "href" (s.catalog.entry t).path
  cases result <;> rfl

theorem change_map (hl : Page.Mirrors φ s.page s.config.stylesheetId) (index : Nat) :
    (s.map φ).change index = (s.change index).map (Chooser.map φ) := by
  cases ht : Theme.ofIndex? index with
  | none => simp [change, ht, Step.map]
  | some t =>
    have happly : Routine.run (s.map φ) (applying t)
        = (Routine.run s (applying t)).map (Chooser.map φ) := apply_map hl t
    simp only [change, ht, Routine.run_bind, Routine.run_report, Step.andThen_ok, happly]
    obtain ⟨result, q, logs⟩ := Routine.run s (applying t)
    cases result <;> rfl

theorem perform_map (hm : Page.Mirrors φ s.page s.config.menuId)
    (hl : Page.Mirrors φ s.page s.config.stylesheetId) (call : Command) :
    (s.map φ).perform call = (s.perform call).map (Chooser.map φ) := by
  cases call with
  | install =>
    simp only [perform, install_map hm hl]
    rfl
  | change index => exact change_map hl index
  | apply theme =>
    simp only [perform, apply_map hl]
    rfl

end Map

end Chooser

/-! ## Requests -/

/-- What a chooser and its page are asked. -/
inductive Request where
  | call (command : Command)
  | write (id name value : String)
  | read (id name : String)
deriving DecidableEq, Repr

/-- The id that a request names, if it goes to the page. -/
def Request.id? : Request → Option String
  | .call _ => none
  | .write id _ _ => some id
  | .read id _ => some id

inductive Reply where
  | called (result : Except ChooserError (Option Theme))
  | written (result : Except PageError Unit)
  | found (result : Except PageError (Option String))

namespace Chooser

section Requests

variable {π : Type} [Page π]

def reply (s : Chooser π) : Request → Reply
  | .call call => .called (s.perform call).result
  | .write id name value => .written (Page.setAttribute s.page id name value).result
  | .read id name => .found (Page.getAttribute s.page id name)

def next (s : Chooser π) : Request → Chooser π
  | .call call => (s.perform call).after
  | .write id name value => { s with page := (Page.setAttribute s.page id name value).after }
  | .read _ _ => s

def afterRequests (s : Chooser π) (rs : List Request) : Chooser π := rs.foldl next s

def replies (s : Chooser π) : List Request → List Reply
  | [] => []
  | r :: rs => s.reply r :: replies (s.next r) rs

theorem next_map {ρ : Type} [Page ρ] {φ : π → ρ} {s : Chooser π} {r : Request}
    (hm : Page.Mirrors φ s.page s.config.menuId)
    (hl : Page.Mirrors φ s.page s.config.stylesheetId)
    (hr : ∀ id, r.id? = some id → Page.Mirrors φ s.page id) :
    (s.map φ).reply r = s.reply r ∧ (s.map φ).next r = (s.next r).map φ := by
  cases r with
  | call call =>
    simp only [reply, next, perform_map hm hl]
    exact ⟨rfl, rfl⟩
  | write id name value =>
    have he : Page.setAttribute (s.map φ).page id name value
        = (Page.setAttribute s.page id name value).map φ := (hr id rfl).edit _
    simp only [reply, next, he]
    exact ⟨rfl, rfl⟩
  | read id name =>
    have hg : Page.getAttribute (s.map φ).page id name = Page.getAttribute s.page id name :=
      (hr id rfl).getAttribute name
    exact ⟨congrArg Reply.found hg, rfl⟩

end Requests

end Chooser

/-! ## The application's page and its document -/

namespace Shell

open Chooser

variable {c : Config} {s : Chooser Shell}

/-- A chooser with the settings `c` on a page that hosts them. -/
structure Runs (c : Config) (s : Chooser Shell) : Prop where
  config : s.config = c
  hosts : Hosts c s.page

theorem runs_apply (hs : Runs c s) (t : Theme) : Runs c (s.apply t).after := by
  refine ⟨(config_perform s (.apply t)).trans hs.config, ?_⟩
  rw [page_apply]
  exact hosts_setAttribute hs.hosts _ _ _

theorem runs_install (hs : Runs c s) : Runs c s.install.after := by
  refine ⟨(config_perform s .install).trans hs.config, ?_⟩
  cases hi : s.installed with
  | true =>
    rw [(install_of_installed hi).2]
    exact hs.hosts
  | false =>
    rw [page_install hi, hs.config]
    exact hosts_appendChild hs.hosts _

theorem runs_next (hs : Runs c s) (r : Request) : Runs c (s.next r) := by
  cases r with
  | call call => exact perform_preserves hs (runs_install hs) (runs_apply hs) call
  | write id name value => exact ⟨hs.config, hosts_setAttribute hs.hosts id name value⟩
  | read id name => exact hs

theorem next_document (h : c.menuId ≠ c.stylesheetId) (hs : Runs c s) {r : Request}
    (hr : r.id? ≠ some c.selectorId) :
    (s.map document).reply r = s.reply r ∧
      (s.map document).next r = (s.next r).map document := by
  apply next_map
  · rw [hs.config]
    exact mirrors_document h hs.hosts fun _ => .inr rfl
  · rw [hs.config]
    exact mirrors_document h hs.hosts fun _ => .inl rfl
  · intro id hid
    apply mirrors_document h hs.hosts
    rintro rfl
    exact absurd hid hr

theorem requests_document (h : c.menuId ≠ c.stylesheetId) (hs : Runs c s) {rs : List Request}
    (hrs : ∀ r ∈ rs, r.id? ≠ some c.selectorId) :
    (s.map document).replies rs = s.replies rs ∧
      (s.map document).afterRequests rs = (s.afterRequests rs).map document ∧
      Runs c (s.afterRequests rs) := by
  -- `Runs` speaks of the application's page alone: the document is a function of that page
  induction rs generalizing s with
  | nil => exact ⟨rfl, rfl, hs⟩
  | cons r rs ih =>
    obtain ⟨hr, hrs⟩ := List.forall_mem_cons.1 hrs
    obtain ⟨hreply, hnext⟩ := next_document h hs hr
    obtain ⟨hreplies, hafter, hruns⟩ := ih (runs_next hs r) hrs
    refine ⟨?_, ?_, hruns⟩
    · rw [replies, hreply, hnext, hreplies, replies]
    · show ((s.map document).next r).afterRequests rs = ((s.next r).afterRequests rs).map document
      rw [hnext, hafter]

/-- **The application's page and the document simulate each other.** Started on the link and the
empty menu, a chooser on either page answers every request alike, and afterwards the two agree on
the theme in use, on whether the select is in place, and on both elements as a whole. -/
theorem simulates_document (c : Config) (h : c.menuId ≠ c.stylesheetId) (rs : List Request)
    (hrs : ∀ r ∈ rs, r.id? ≠ some c.selectorId) :
    let link : Element :=
      { tag := "link", id := some c.stylesheetId,
        attributes := ⟨[("rel", "stylesheet"), ("href", c.light.path)]⟩ }
    let menu : Element := { tag := "div", id := some c.menuId }
    let onShell := ofPage (ofConfig c) c
    let onDocument := ofPage (Document.ofElements [link, menu]) c
    onDocument.replies rs = onShell.replies rs ∧
      (onDocument.afterRequests rs).selected = (onShell.afterRequests rs).selected ∧
      (onDocument.afterRequests rs).installed = (onShell.afterRequests rs).installed ∧
      (onDocument.afterRequests rs).page.find? c.stylesheetId
        = some (onShell.afterRequests rs).page.link ∧
      (onDocument.afterRequests rs).page.find? c.menuId
        = some (onShell.afterRequests rs).page.menu := by
  intro link menu onShell onDocument
  have hs : Runs c onShell := ⟨rfl, hosts_ofConfig c⟩
  have hd : onDocument = onShell.map document := rfl
  obtain ⟨hreplies, hafter, hruns⟩ := requests_document h hs hrs
  rw [hd, hafter]
  exact ⟨hreplies, rfl, rfl, find?_document_link hruns.hosts, find?_document_menu h hruns.hosts⟩

/-- The select with the id of the link, and requests for the menu between the calls. -/
theorem simulates_document_shared_id :
    let c : Config := { selectorId := "color_css" }
    let rs : List Request :=
      [.call .install, .write "menu" "href" "x", .call (.apply .dark), .read "menu" "href",
        .write "select" "href" "x"]
    let onShell := ofPage (ofConfig c) c
    let onDocument := ofPage (ofConfig c).document c
    onDocument.replies rs = onShell.replies rs ∧
      onShell.replies rs
        = [.called (.ok none), .written (.ok ()), .called (.ok none), .found (.ok (some "x")),
          .written (.error (.elementNotFound "select"))] ∧
      (onDocument.afterRequests rs).page.find? "color_css"
        = some (onShell.afterRequests rs).page.link := by
  intro c rs onShell onDocument
  obtain ⟨hreplies, -, -, hlink, -⟩ :=
    simulates_document { selectorId := "color_css" } (by decide) rs (by decide)
  exact ⟨hreplies, rfl, hlink⟩

end Shell
end ThemeMenu
