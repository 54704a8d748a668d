import Gleaner.Proofs.Css.Scope
import Gleaner.Proofs.Tree.Cascade
import Gleaner.Tree.Data

/-
  Paths in two parts, through any kind of document.  The second
  part goes on from what the first leads to, and where the first
  comes to a label that matches nothing, or that cannot be read,
  nothing behind it is found.

  Main declarations:
    * `Cursor.IsMiss`
    * `Cursor.Stops`
    * `Cursor.narrow_eq_nil_iff`
    * `Cursor.resolvePath_eq_nil_iff`
    * `Cursor.resolvePath_in_parts`
-/

namespace Gleaner

namespace Cursor

variable {N : Type}
variable [Cursor N]

------------------------------------------------------------
-- Labels That Lead Nowhere
------------------------------------------------------------

/-
  A label misses from some nodes if nothing below them matches it
  that is not empty, or if one of them cannot read it.
-/
def IsMiss (nodes : List N) (label : String) : Prop :=
  selectAll nodes label = .ok [] ∨
    ∃ e, selectAll nodes label = .error e

/- A path stops if it comes to a label that misses. -/
def Stops (nodes : List N) (path : Path) : Prop :=
  ∃ before label after, path = before ++ label :: after ∧
    IsMiss (resolvePath nodes before) label

/- A step leads to no node exactly if its label misses. -/
theorem narrow_eq_nil_iff
    {nodes : List N}
    {label : String} :
    narrow nodes label = [] ↔ IsMiss nodes label := by
  unfold narrow IsMiss
  cases selectAll nodes label with
  | ok found => simp
  | error e => simp

/- The last label of a path is a step from what is in front of it. -/
theorem resolvePath_concat
    (nodes : List N)
    (path : Path)
    (label : String) :
    resolvePath nodes (path ++ [label]) =
      narrow (resolvePath nodes path) label := by
  rw [resolvePath, List.foldl_append]
  rfl

------------------------------------------------------------
-- Paths That Stop
------------------------------------------------------------

/- Behind no node there is nothing to be found. -/
theorem resolvePath_append_eq_nil
    {nodes : List N}
    {path : Path}
    (hNone : resolvePath nodes path = [])
    (more : Path) :
    resolvePath nodes (path ++ more) = [] := by
  rw [resolvePath_append, hNone, resolvePath_of_nil]

/- A path that stops leads to no node. -/
theorem Stops.resolvePath_eq_nil
    {nodes : List N}
    {path : Path}
    (hStops : Stops nodes path) :
    resolvePath nodes path = [] := by
  rcases hStops with ⟨before, label, after, rfl, hMiss⟩
  have hHere : resolvePath nodes (before ++ [label]) = [] := by
    rw [resolvePath_concat]
    exact narrow_eq_nil_iff.mpr hMiss
  rw [List.append_cons]
  exact resolvePath_append_eq_nil hHere after

/-
  A path leads to no node exactly if it stops, or if it starts from
  none that is not empty.
-/
theorem resolvePath_eq_nil_iff
    {nodes : List N}
    {path : Path} :
    resolvePath nodes path = [] ↔
      (∀ n ∈ nodes, isEmpty n = true) ∨ Stops nodes path := by
  constructor
  · intro hNone
    rcases List.eq_nil_or_concat' path with rfl | ⟨before, label, rfl⟩
    · left
      simpa [resolvePath_nil, List.filter_eq_nil_iff] using hNone
    · right
      rw [resolvePath_concat, narrow_eq_nil_iff] at hNone
      exact ⟨before, label, [], rfl, hNone⟩
  · rintro (hEmpty | hStops)
    · have hStart : nodes.filter (!isEmpty ·) = [] := by
        simpa [List.filter_eq_nil_iff] using hEmpty
      rw [← resolvePath_filter, hStart, resolvePath_of_nil]
    · exact hStops.resolvePath_eq_nil

/-
  In every kind of document, from any nodes: a path leads where its
  second part leads from what its first part leads to, for every way
  to cut it in two.  The first part leads to no node exactly if it
  stops, or if it starts from none that is not empty; and then no
  second part leads to any.
-/
theorem resolvePath_in_parts (nodes : List N) (path : Path) :
    (∀ more, resolvePath nodes (path ++ more) =
      resolvePath (resolvePath nodes path) more) ∧
    (resolvePath nodes path = [] ↔
      (∀ n ∈ nodes, isEmpty n = true) ∨ Stops nodes path) ∧
    (Stops nodes path →
      ∀ more, resolvePath nodes (path ++ more) = []) := by
  refine ⟨resolvePath_append nodes path, resolvePath_eq_nil_iff, ?_⟩
  intro hStops more
  exact resolvePath_append_eq_nil hStops.resolvePath_eq_nil more

/- A product with a name, and with nothing on its stock. -/
def namedProduct : Json :=
  .object [("data", .object [("name", .text "Shoe"), ("stock", .null)])]

/-
  The stock holds nothing, and so its label misses; of two handles on
  one page none can read a label that is no selector.
-/
theorem resolvePath_in_parts_sample :
    let product := Json.Place.root namedProduct
    let page := Markup.boxInBox.element
    Stops [product, Json.Place.root .null, product] ["data", "stock"] ∧
    resolvePath [product, Json.Place.root .null, product]
      (["data", "stock"] ++ ["name"]) = [] ∧
    Stops [page, page] ["p!", "div"] ∧
    resolvePath [page, page] (["p!", "div"] ++ ["p"]) = [] := by
  intro product page
  have hProduct :
      Stops [product, Json.Place.root .null, product]
        ["data", "stock"] :=
    ⟨["data"], "stock", [], rfl, .inl rfl⟩
  have hLabel : Css.parse? "p!" = none := by
    rw [Css.parse?_of_isFlat (by decide +kernel)]
    rfl
  have hSelect : select page "p!" = .error ⟨"p!"⟩ :=
    Markup.Element.select_of_parse?_eq_none hLabel page
  have hFilled : isEmpty page = false := by decide +kernel
  have hFails :
      selectAll (resolvePath [page, page] []) "p!" = .error ⟨"p!"⟩ := by
    have hStart : resolvePath [page, page] [] = [page, page] := by
      simp [resolvePath_nil, hFilled]
    rw [hStart, selectAll, List.mapM_cons, hSelect]
    rfl
  have hPage : Stops [page, page] ["p!", "div"] :=
    ⟨[], "p!", ["div"], rfl, .inr ⟨_, hFails⟩⟩
  exact ⟨hProduct, (resolvePath_in_parts _ _).2.2 hProduct ["name"],
    hPage, (resolvePath_in_parts _ _).2.2 hPage ["p"]⟩

end Cursor

end Gleaner
