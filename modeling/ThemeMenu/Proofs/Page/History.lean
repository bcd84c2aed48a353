import ThemeMenu.Proofs.Page.Reach

/-!
# ThemeMenu.Proofs.Page.History

The application's page as a record of the calls made on it. Its two elements never change their ids,
so whether a call succeeds does not depend on the calls before it, and each of the elements is what
the calls under its id have made of it: its children are the elements that were appended, and its
attributes have the values written last. Where menu and link have one id the menu takes all calls, and
the link stays as it was.

* `Access`, `Page.access`, `Page.afterAccesses`: the calls of a page, what they answer, and runs.
* `appendedTo`, `lastWritten?`: what a run did under an id.
* `Access.under`, `Element.afterCalls`: an element after the calls under its id.
* `children_afterCalls`, `attribute?_afterCalls`: it shows what the run did.
* `afterAccess_eq`, `afterAccesses_eq`: the page is made up of two such elements.
* `inMenu_afterAccesses`, `href_afterAccesses`, `link_afterAccesses`: what the two show after a run.
* `accesses_recall_run`: all observations of the page after a run.
-/

namespace ThemeMenu

/-- The id that a change is addressed to. -/
def Edit.id : Edit → String
  | .append parent _ => parent
  | .write id _ _ => id

/-- What a change makes of the element it is addressed to. -/
def Edit.apply : Edit → Element → Element
  | .append _ child => (·.append child)
  | .write _ name value => (·.setAttribute name value)

/-- The calls that every page takes: changes, and reads of an attribute. -/
inductive Access where
  | edit (change : Edit)
  | read (id name : String)
deriving DecidableEq

namespace Access

def id : Access → String
  | .edit change => change.id
  | .read id _ => id

/-- The element that a call appends under an id. -/
def appended? (x : String) : Access → Option Element
  | .edit (.append parent child) => if parent = x then some child else none
  | .edit (.write _ _ _) => none
  | .read _ _ => none

/-- The value that a call writes to an attribute. -/
def written? (x k : String) : Access → Option String
  | .edit (.write id name value) => if id = x ∧ name = k then some value else none
  | .edit (.append _ _) => none
  | .read _ _ => none

/-- What a call makes of the element with an id. -/
def under (x : String) (e : Element) : Access → Element
  | .edit change => if change.id = x then change.apply e else e
  | .read _ _ => e

end Access

/-- The elements that a run appends under an id, in their order. -/
def appendedTo (x : String) (run : List Access) : List Element :=
  run.filterMap (Access.appended? x)

def lastWritten? (x k : String) (run : List Access) : Option String :=
  run.reverse.findSome? (Access.written? x k)

theorem appendedTo_cons (x : String) (a : Access) (run : List Access) :
    appendedTo x (a :: run) = (a.appended? x).toList ++ appendedTo x run := by
  rw [appendedTo, List.filterMap_cons]
  cases a.appended? x <;> rfl

theorem lastWritten?_cons (x k : String) (a : Access) (run : List Access) :
    lastWritten? x k (a :: run) = (lastWritten? x k run).or (a.written? x k) := by
  rw [lastWritten?, List.reverse_cons, List.findSome?_append, lastWritten?]
  simp only [List.findSome?_cons, List.findSome?_nil]
  cases a.written? x k <;> rfl

/-! ## One element -/

namespace Element

/-- The element with an id after the calls of a run. -/
def afterCalls (x : String) (e : Element) (run : List Access) : Element :=
  run.foldl (Access.under x) e

variable {x : String}

theorem children_under (x : String) (e : Element) (a : Access) :
    (a.under x e).children = e.children ++ (a.appended? x).toList := by
  cases a with
  | read id name => exact (List.append_nil _).symm
  | edit change =>
    cases change with
    | append parent child =>
      by_cases h : parent = x <;> simp [Access.under, Access.appended?, Edit.id, Edit.apply, append, h]
    | write id name value =>
      by_cases h : id = x <;>
        simp [Access.under, Access.appended?, Edit.id, Edit.apply, setAttribute, h]

theorem attribute?_under (x k : String) (e : Element) (a : Access) :
    (a.under x e).attribute? k = (a.written? x k).or (e.attribute? k) := by
  cases a with
  | read id name => rfl
  | edit change =>
    cases change with
    | append parent child =>
      by_cases h : parent = x <;>
        simp [Access.under, Access.written?, Edit.id, Edit.apply, append, attribute?, h]
    | write id name value =>
      have hput := Attributes.get?_put e.attributes name value k
      by_cases h : id = x
      · by_cases hk : name = k
        · subst hk
          simp [Access.under, Access.written?, Edit.id, Edit.apply, attribute?, setAttribute, h, hput]
        · simp [Access.under, Access.written?, Edit.id, Edit.apply, attribute?, setAttribute, h, hput,
            hk, Ne.symm hk]
      · simp [Access.under, Access.written?, Edit.id, h]

theorem children_afterCalls (x : String) (e : Element) (run : List Access) :
    (e.afterCalls x run).children = e.children ++ appendedTo x run := by
  induction run generalizing e with
  | nil => exact (List.append_nil _).symm
  | cons a run ih =>
    calc ((a.under x e).afterCalls x run).children
      _ = (a.under x e).children ++ appendedTo x run := ih (a.under x e)
      _ = e.children ++ appendedTo x (a :: run) := by
        rw [children_under, appendedTo_cons, List.append_assoc]

theorem attribute?_afterCalls (x k : String) (e : Element) (run : List Access) :
    (e.afterCalls x run).attribute? k = (lastWritten? x k run).or (e.attribute? k) := by
  induction run generalizing e with
  | nil => rfl
  | cons a run ih =>
    calc ((a.under x e).afterCalls x run).attribute? k
      _ = (lastWritten? x k run).or ((a.under x e).attribute? k) := ih (a.under x e)
      _ = (lastWritten? x k (a :: run)).or (e.attribute? k) := by
        rw [attribute?_under, lastWritten?_cons, Option.or_assoc]

end Element

/-! ## A page -/

namespace Page

variable {π : Type} [Page π] {p : π}

/-- A change has nothing to answer but that it succeeded, and a read leaves the page alone. -/
def access (p : π) : Access → Step π PageError (Option String)
  | .edit change => (change.on p).answering none
  | .read id name => ⟨getAttribute p id name, p, []⟩

def afterAccess (p : π) (a : Access) : π := (access p a).after

def afterAccesses (p : π) (run : List Access) : π := run.foldl afterAccess p

theorem on_eq_edit (p : π) (change : Edit) : change.on p = edit p change.id change.apply := by
  cases change <;> rfl

theorem access_eq_error_iff {a : Access} {e : PageError} :
    (access p a).result = .error e ↔ element? p a.id = none ∧ e = .elementNotFound a.id := by
  cases a with
  | read id name => exact getAttribute_eq_error_iff
  | edit change =>
    rw [access, Step.answering_eq_error_iff, on_eq_edit, edit_eq_error_iff, Access.id]

theorem exists_access_iff {a : Access} :
    (∃ v, (access p a).result = .ok v) ↔ element? p a.id ≠ none := by
  cases h : (access p a).result with
  | ok v =>
    have hne : element? p a.id ≠ none := by
      intro hnone
      rw [access_eq_error_iff.2 ⟨hnone, rfl⟩] at h
      cases h
    simp [hne]
  | error e => simp [(access_eq_error_iff.1 h).1]

end Page

/-! ## The application's page -/

namespace Shell

variable {c : Config} {p : Shell} {x : String}

theorem Named.afterAccess (hp : Named c p) (a : Access) : Named c (Page.afterAccess p a) := by
  cases a with
  | edit change => exact hp.afterEdit change
  | read id name => exact hp

theorem Named.afterAccesses (hp : Named c p) (run : List Access) :
    Named c (Page.afterAccesses p run) := by
  induction run generalizing p with
  | nil => exact hp
  | cons a run ih => exact ih (hp.afterAccess a)

/-- The menu is asked first, so the link is left alone if both have one id. -/
theorem afterAccess_eq (hp : Named c p) (a : Access) :
    Page.afterAccess p a
      = ⟨a.under c.menuId p.menu,
          if c.menuId = c.stylesheetId then p.link else a.under c.stylesheetId p.link⟩ := by
  cases a with
  | read id name => simp only [Page.afterAccess, Page.access, Access.under, ite_self]
  | edit change =>
    simp only [Page.afterAccess, Page.access, Step.answering, Page.on_eq_edit, Access.under]
    by_cases hm : change.id = c.menuId
    · rw [edit_menu _ (hp.menu_id.trans (congrArg some hm.symm))]
      simp only [if_pos hm]
      by_cases heq : c.menuId = c.stylesheetId
      · rw [if_pos heq]
      · have hl : ¬ change.id = c.stylesheetId := fun he => heq (hm.symm.trans he)
        rw [if_neg heq, if_neg hl]
    · by_cases hl : change.id = c.stylesheetId
      · have hne : ¬ c.menuId = c.stylesheetId := fun he => hm (hl.trans he.symm)
        rw [edit_link _ (hp.menu_ne hm) (hp.link_id.trans (congrArg some hl.symm))]
        simp only [if_neg hm, if_pos hl, if_neg hne]
      · rw [edit_none _ (hp.menu_ne hm) (hp.link_ne hl)]
        simp only [if_neg hm, if_neg hl, ite_self]

theorem afterAccesses_eq (hp : Named c p) (run : List Access) :
    Page.afterAccesses p run
      = ⟨p.menu.afterCalls c.menuId run,
          if c.menuId = c.stylesheetId then p.link
          else p.link.afterCalls c.stylesheetId run⟩ := by
  induction run generalizing p with
  | nil => simp only [Page.afterAccesses, Element.afterCalls, List.foldl_nil, ite_self]
  | cons a run ih =>
    show Page.afterAccesses (Page.afterAccess p a) run = _
    rw [ih (hp.afterAccess a), afterAccess_eq hp]
    split
    · rfl
    · rfl

/-- The attributes that the page starts with are those of the link, if its id does not mean the
menu. -/
def initial? (c : Config) (x k : String) : Option String :=
  if x = c.stylesheetId ∧ x ≠ c.menuId then
    if k = "rel" then some "stylesheet"
    else if k = "href" then some c.light.path
    else none
  else none

theorem attribute?_link_ofConfig (h : c.menuId ≠ c.stylesheetId) (k : String) :
    (ofConfig c).link.attribute? k = initial? c c.stylesheetId k := by
  simp [initial?, Ne.symm h, ofConfig, Element.attribute?, Attributes.get?, Attributes.value?,
    eq_comm]

theorem getAttribute_afterAccesses (run : List Access) (hx : x = c.menuId ∨ x = c.stylesheetId)
    (k : String) :
    Page.getAttribute (Page.afterAccesses (ofConfig c) run) x k
      = .ok ((lastWritten? x k run).or (initial? c x k)) := by
  have hp := (named_ofConfig c).afterAccesses run
  have hpage := afterAccesses_eq (named_ofConfig c) run
  by_cases hm : x = c.menuId
  · subst hm
    rw [Page.getAttribute_of_element? (element?_menu hp.menu_id), hpage,
      Element.attribute?_afterCalls]
    simp [initial?, ofConfig, Element.attribute?, Attributes.get?, Attributes.value?]
  · obtain rfl : x = c.stylesheetId := hx.resolve_left hm
    have hne : c.menuId ≠ c.stylesheetId := Ne.symm hm
    rw [getAttribute_link k (hp.menu_ne hm) hp.link_id, hpage, if_neg hne,
      Element.attribute?_afterCalls, attribute?_link_ofConfig hne]

theorem inMenu_afterAccesses (c : Config) (run : List Access) :
    (Page.afterAccesses (ofConfig c) run).inMenu = appendedTo c.menuId run := by
  rw [afterAccesses_eq (named_ofConfig c) run]
  exact Element.children_afterCalls c.menuId (ofConfig c).menu run

theorem href_afterAccesses (h : c.menuId ≠ c.stylesheetId) (run : List Access) :
    (Page.afterAccesses (ofConfig c) run).href
      = (lastWritten? c.stylesheetId "href" run).getD c.light.path := by
  rw [afterAccesses_eq (named_ofConfig c) run, if_neg h]
  simp only [href, Element.attribute?_afterCalls, href_ofConfig]
  cases lastWritten? c.stylesheetId "href" run <;> rfl

theorem link_afterAccesses (h : c.menuId = c.stylesheetId) (run : List Access) :
    (Page.afterAccesses (ofConfig c) run).link = (ofConfig c).link := by
  rw [afterAccesses_eq (named_ofConfig c) run, if_pos h]

/-- **The application's page after any run of calls.** A call succeeds exactly under the ids of the
menu and the link, which stay. The menu holds what was appended to it; every attribute reads the
value last written to it, or else the one it had at the start. Where both ids are equal, the menu
takes all calls and the link stays as it was. -/
theorem accesses_recall_run (c : Config) (run : List Access) :
    let p := Page.afterAccesses (ofConfig c) run
    (∀ a, (∃ v, (Page.access p a).result = .ok v) ↔ a.id = c.menuId ∨ a.id = c.stylesheetId) ∧
    p.menuId = c.menuId ∧ p.linkId = c.stylesheetId ∧
    p.inMenu = appendedTo c.menuId run ∧
    (c.menuId ≠ c.stylesheetId →
      p.href = (lastWritten? c.stylesheetId "href" run).getD c.light.path) ∧
    (c.menuId = c.stylesheetId →
      p.link = (ofConfig c).link ∧ p.href = c.light.path ∧
        Page.element? p c.stylesheetId = some p.menu ∧
        ∀ f, Page.edit p c.stylesheetId f = ⟨.ok (), { p with menu := f p.menu }, []⟩) ∧
    ∀ x k, x = c.menuId ∨ x = c.stylesheetId →
      Page.getAttribute p x k = .ok ((lastWritten? x k run).or (initial? c x k)) := by
  intro p
  have hp : Named c p := (named_ofConfig c).afterAccesses run
  refine ⟨?_, hp.menuId_eq, hp.linkId_eq, inMenu_afterAccesses c run,
    fun h => href_afterAccesses h run, ?_, fun x k hx => getAttribute_afterAccesses run hx k⟩
  · intro a
    rw [Page.exists_access_iff, Ne, hp.element?_eq_none_iff]
    simp only [ne_eq, Decidable.not_and_iff_not_or_not, Decidable.not_not]
  · intro h
    have hlink : p.link = (ofConfig c).link := link_afterAccesses h run
    have hmenu : p.menu.id = some c.stylesheetId := by rw [hp.menu_id, h]
    refine ⟨hlink, ?_, element?_menu hmenu, fun f => edit_menu f hmenu⟩
    rw [href, hlink, href_ofConfig]
    rfl

/-- A run with a call under no id of the page, an attribute called `id`, and two values for the
stylesheet: on a page with two ids, and on one where the menu has that of the link. -/
theorem accesses_recall_run_shared_id :
    let badge : Element := { tag := "span", id := some "badge" }
    let run : List Access :=
      [.edit (.write "color_css" "href" "a"), .edit (.append "color_css" badge),
        .edit (.write "badge" "href" "b"), .edit (.write "color_css" "id" "menu"),
        .read "color_css" "href", .edit (.write "color_css" "href" "c")]
    let p := Page.afterAccesses (ofConfig {}) run
    let q := Page.afterAccesses (ofConfig { menuId := "color_css" }) run
    p.linkId = "color_css" ∧ p.inMenu = [] ∧ p.href = "c" ∧
      Page.getAttribute p "color_css" "rel" = .ok (some "stylesheet") ∧
      q.inMenu = [badge] ∧ q.href = "./css/light.css" ∧
      Page.getAttribute q "color_css" "href" = .ok (some "c") ∧
      Page.getAttribute q "color_css" "rel" = .ok none := by
  intro badge run p q
  obtain ⟨-, -, hid, hmenu, hhref, -, hread⟩ := accesses_recall_run {} run
  obtain ⟨-, -, -, hmenu', -, hshared, hread'⟩ :=
    accesses_recall_run { menuId := "color_css" } run
  obtain ⟨-, hhref', -⟩ := hshared rfl
  exact ⟨hid, hmenu, hhref (by decide), hread "color_css" "rel" (.inr rfl), hmenu', hhref',
    hread' "color_css" "href" (.inl rfl), hread' "color_css" "rel" (.inl rfl)⟩

end Shell
end ThemeMenu
