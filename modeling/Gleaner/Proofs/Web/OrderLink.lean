import Gleaner.Proofs.Tree.Names
import Gleaner.Web.OrderLink
import Mathlib.Data.List.TakeWhile

/-
  The link to the order page.  It is the first link that can be
  followed, unless a link with a slash that leads nowhere stands
  in front of it.  Then no link is taken at all.

  Main declarations:
    * `Web.linkOf?`
    * `Web.leadsTo?`
    * `Web.IsBlocked`
    * `Web.follow?_eq_some_iff`
    * `Web.orderLink_iff`
-/

namespace Gleaner

namespace Web

open Markup (Element)

------------------------------------------------------------
-- Links of Matches
------------------------------------------------------------

/- The link of the node that was found, without blanks around it. -/
def linkOf? (m : Match Element) : Option (List Char) :=
  (m.node?.bind (·.tag.attribute? "href")).map fun href =>
    Text.trim href.toList

/- The link of a match has a slash in it. -/
def hasPath (m : Match Element) : Bool :=
  (linkOf? m).any (·.contains '/')

/- Where a link is found from the page that it stands on. -/
def joined? (base : Url) (href : List Char) : Option String :=
  match base.join (String.ofList href) with
  | .ok url => some url.text
  | .error _ => none

/- Where the link of a match leads to, if it has a slash in it. -/
def leadsTo? (base : Url) (m : Match Element) : Option String :=
  ((linkOf? m).filter (·.contains '/')).bind (joined? base)

/-
  The first link with a slash leads nowhere, though one behind it
  leads somewhere.
-/
def IsBlocked (base : Url) (found : List (Match Element)) : Prop :=
  ∃ before m after, found = before ++ m :: after ∧
    (∀ b ∈ before, hasPath b = false) ∧ hasPath m = true ∧
    leadsTo? base m = none ∧ ∃ good ∈ after, (leadsTo? base good).isSome

variable {base : Url}
variable {m : Match Element}
variable {found : List (Match Element)}

/- A link without a slash leads nowhere. -/
theorem leadsTo?_eq_none
    (base : Url)
    (hPath : hasPath m = false) :
    leadsTo? base m = none := by
  rw [hasPath] at hPath
  rw [leadsTo?]
  cases hLink : linkOf? m with
  | none => rfl
  | some href =>
      rw [hLink, Option.any_some] at hPath
      rw [Option.filter_some, hPath]
      rfl

/- The links of a page are those of the matches in their order. -/
theorem linksOf_eq
    (root : Element)
    (order : List Selector) :
    linksOf root order =
      (order.flatMap (·.resolve root)).filterMap linkOf? := by
  rw [linksOf, List.map_filterMap]
  rfl

------------------------------------------------------------
-- The First Link with a Slash
------------------------------------------------------------

/- Where the first link with a slash leads to. -/
def follow? (base : Url) (found : List (Match Element)) :
    Option String :=
  ((found.filterMap linkOf?).find? (·.contains '/')).bind (joined? base)

/- The link of the first match is followed, or there is no slash in it. -/
theorem follow?_cons
    (base : Url)
    (m : Match Element)
    (rest : List (Match Element)) :
    follow? base (m :: rest) =
      if hasPath m then leadsTo? base m else follow? base rest := by
  cases hLink : linkOf? m with
  | none => simp [follow?, hasPath, hLink]
  | some href =>
      rw [follow?, hasPath, leadsTo?, List.filterMap_cons_some hLink,
        List.find?_cons, hLink, Option.any_some, Option.filter_some]
      cases href.contains '/' with
      | true => rfl
      | false => rfl

/- Only the first link with a slash blocks the others. -/
theorem isBlocked_cons_iff
    {rest : List (Match Element)} :
    IsBlocked base (m :: rest) ↔
      if hasPath m then
        leadsTo? base m = none ∧ ∃ good ∈ rest, (leadsTo? base good).isSome
      else IsBlocked base rest := by
  constructor
  · rintro ⟨before, n, after, hFound, hBefore, hPath, hNone, hGood⟩
    cases before with
    | nil =>
        cases hFound
        rw [if_pos hPath]
        exact ⟨hNone, hGood⟩
    | cons b before =>
        cases hFound
        rw [List.forall_mem_cons] at hBefore
        rw [hBefore.1, if_neg Bool.false_ne_true]
        exact ⟨before, n, after, rfl, hBefore.2, hPath, hNone, hGood⟩
  · intro hBlocked
    split at hBlocked
    · rename_i hPath
      exact ⟨[], m, rest, rfl, nofun, hPath, hBlocked⟩
    · rename_i hPath
      rcases hBlocked with ⟨before, n, after, rfl, hBefore, hRest⟩
      refine ⟨m :: before, n, after, rfl, ?_, hRest⟩
      rw [List.forall_mem_cons]
      exact ⟨eq_false_of_ne_true hPath, hBefore⟩

/-
  The first link with a slash leads where the first link leads
  that leads anywhere, unless it is blocked.
-/
theorem follow?_eq_some_iff {url : String} :
    follow? base found = some url ↔
      found.findSome? (leadsTo? base) = some url ∧
        ¬ IsBlocked base found := by
  induction found with
  | nil => simp [follow?]
  | cons m rest ih =>
      rw [follow?_cons, isBlocked_cons_iff, List.findSome?_cons]
      cases hPath : hasPath m with
      | false =>
          rw [leadsTo?_eq_none base hPath]
          exact ih
      | true =>
          cases hLead : leadsTo? base m with
          | some other => simp
          | none =>
              -- whatever leads anywhere behind this link is blocked
              simp only [if_true, true_and, reduceCtorEq, false_iff,
                not_and, Classical.not_not]
              intro hLater
              rcases List.exists_of_findSome?_eq_some hLater with
                ⟨good, hGood, hSome⟩
              exact ⟨good, hGood, Option.isSome_of_eq_some hSome⟩

/- Nothing is followed if nothing leads anywhere, or it is blocked. -/
theorem follow?_eq_none_iff :
    follow? base found = none ↔
      found.findSome? (leadsTo? base) = none ∨ IsBlocked base found := by
  rw [Option.eq_none_iff_forall_ne_some]
  simp only [ne_eq, follow?_eq_some_iff, not_and, Classical.not_not]
  constructor
  · intro hAll
    cases hFirst : found.findSome? (leadsTo? base) with
    | none => exact .inl rfl
    | some url => exact .inr (hAll url hFirst)
  · rintro (hNone | hBlocked) url hSome
    · rw [hNone] at hSome
      cases hSome
    · exact hBlocked

------------------------------------------------------------
-- The Order Page
------------------------------------------------------------

/- The order page is where the first link with a slash leads to. -/
theorem orderLink?_of_parse
    {address : String}
    (body : String)
    (order : List Selector)
    (hParse : Url.parse address = .ok base) :
    orderLink? body address order =
      follow? base
        (order.flatMap (·.resolve (Markup.parseDocument body).element)) := by
  rw [orderLink?, hParse]
  dsimp only
  rw [linksOf_eq, follow?]
  generalize List.find? (fun href : List Char => href.contains '/') _ =
    first
  cases first with
  | none => rfl
  | some href => rfl

/-
  The address of the order page is that of the first match, in
  the order of the candidates and then of their matches, whose
  link has a slash and can be found from the page.  There is none
  if the address of the page cannot be read, if no match has such
  a link, or if an earlier link with a slash cannot be found.
-/
theorem orderLink_iff
    (body address : String)
    (order : List Selector) :
    let found :=
      order.flatMap (·.resolve (Markup.parseDocument body).element)
    (∀ url, orderLink? body address order = some url ↔
      ∃ base, Url.parse address = .ok base ∧
        found.findSome? (leadsTo? base) = some url ∧
        ¬ IsBlocked base found) ∧
    (orderLink? body address order = none ↔
      ∀ base, Url.parse address = .ok base →
        found.findSome? (leadsTo? base) = none ∨
          IsBlocked base found) := by
  intro found
  cases hParse : Url.parse address with
  | error e =>
      have hNone : orderLink? body address order = none := by
        rw [orderLink?, hParse]
      simp [hNone]
  | ok base =>
      rw [orderLink?_of_parse body order hParse]
      constructor
      · intro url
        simp [follow?_eq_some_iff, found]
      · simp [follow?_eq_none_iff, found]

------------------------------------------------------------
-- A Link that Blocks Others
------------------------------------------------------------

/- A link with some text. -/
def anchor (href text : String) : Markup.Node :=
  .element ⟨.html, "a", [⟨.plain, "href", href⟩]⟩ [.text text]

/- A page with a link to no host in front of the one to the order. -/
def twoLinks : String :=
  "<a href=\"http://[/\">Now</a><a href=\"/order/9\">Order</a>"

/- All links of a page. -/
def allLinks : Selector :=
  ⟨"a", [], ⟨["a"], none⟩⟩

/- Both links are found in their order. -/
theorem resolve_twoLinks :
    ∃ first second : Match Element,
      [allLinks].flatMap
          (·.resolve (Markup.parseDocument twoLinks).element) =
        [first, second] ∧
      linkOf? first = some "http://[/".toList ∧
      linkOf? second = some "/order/9".toList := by
  let now := anchor "http://[/" "Now"
  let order := anchor "/order/9" "Order"
  let head : Markup.Node := .element ⟨.html, "head", []⟩ []
  let body : Markup.Node := .element ⟨.html, "body", []⟩ [now, order]
  let page : Element := ⟨true, [], ⟨.html, "html", []⟩, [head, body]⟩
  have hPage : Markup.parseDocument twoLinks =
      ⟨true, ⟨.html, "html", []⟩, [head, body]⟩ := by
    decide +kernel
  let first : Element :=
    ⟨true, [⟨⟨.html, "body", []⟩, [], [order]⟩, ⟨page.tag, [head], []⟩],
      ⟨.html, "a", [⟨.plain, "href", "http://[/"⟩]⟩, [.text "Now"]⟩
  let second : Element :=
    ⟨true, [⟨⟨.html, "body", []⟩, [now], []⟩, ⟨page.tag, [head], []⟩],
      ⟨.html, "a", [⟨.plain, "href", "/order/9"⟩]⟩, [.text "Order"]⟩
  have hLower : "a".toLower = "a" := by decide +kernel
  have hNamed : page.named "a" =
      Cursor.keepNew [] [first, second] := by
    simp [Element.named, Element.below, Element.among, Css.nameOn,
      page, head, body, now, order, anchor, first, second, hLower]
  have hKept : Cursor.keepNew [] [first, second] = [first, second] :=
    rfl
  have hFound : allLinks.resolve page =
      [⟨.node first, .outside⟩, ⟨.node second, .outside⟩] := by
    rw [allLinks, Element.resolve_name rfl (by decide +kernel), hNamed,
      hKept]
    rfl
  rw [List.flatMap_singleton, hPage]
  change ∃ first second, allLinks.resolve page = _ ∧ _
  rw [hFound]
  refine ⟨_, _, rfl, ?_, ?_⟩
  · decide +kernel
  · decide +kernel

/- The link to the order is not taken, as the first one leads nowhere. -/
theorem link_without_host_blocks :
    let found := [allLinks].flatMap
      (·.resolve (Markup.parseDocument twoLinks).element)
    orderLink? twoLinks "http://[::1]/p/9" [allLinks] = none ∧
      ∃ base, Url.parse "http://[::1]/p/9" = .ok base ∧
        found.findSome? (leadsTo? base) = some "http://[::1]/order/9" := by
  intro found
  let base : Url :=
    { scheme := "http"
      authority := some ⟨"", some (.six [0, 0, 0, 0, 0, 0, 0, 1]), none⟩
      path := "/p/9".toList
      query := none
      fragment := none }
  have hParse : Url.parse "http://[::1]/p/9" = .ok base := by
    decide +kernel
  have hNowhere : joined? base "http://[/".toList = none := by
    decide +kernel
  have hOrder : joined? base "/order/9".toList =
      some "http://[::1]/order/9" := by
    decide +kernel
  rcases resolve_twoLinks with ⟨first, second, hFound, hFirst, hSecond⟩
  have hBad : leadsTo? base first = none := by
    rw [leadsTo?, hFirst]
    exact hNowhere
  have hGood : leadsTo? base second = some "http://[::1]/order/9" := by
    rw [leadsTo?, hSecond]
    exact hOrder
  refine ⟨?_, base, hParse, ?_⟩
  · have hPath : hasPath first = true := by
      rw [hasPath, hFirst]
      rfl
    rw [orderLink?_of_parse _ _ hParse, hFound, follow?_cons, if_pos hPath,
      hBad]
  · rw [show found = _ from hFound, List.findSome?_cons, hBad,
      List.findSome?_cons, hGood]

end Web

end Gleaner
