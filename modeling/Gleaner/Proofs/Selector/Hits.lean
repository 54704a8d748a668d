import Gleaner.Proofs.Decimal.Form
import Gleaner.Proofs.List.Reading
import Gleaner.Proofs.Selector.Route
import Gleaner.Proofs.Tree.Cursor

/-
  What the hits of an expression are, over any kind of tree.  A
  hit is a node below the end of its route that is not empty, or
  the strict decimals found there; and no two hits of one chain
  of matches are the same node.

  Main declarations:
    * `Cursor.IsDescent`
    * `Cursor.pairwise_resolvePath`
    * `Cursor.exists_within_of_mem_resolvePath`
    * `Hit.IsFound`
    * `Hit.IsApart`
    * `Selector.SameChain`
    * `Selector.Leads.not_precedes`
    * `Selector.HitsFit`
    * `Selector.hitsFit`
-/

namespace Gleaner

namespace Cursor

variable {N : Type}
variable [Cursor N]

------------------------------------------------------------
-- Nodes That Are Apart
------------------------------------------------------------

/- No node comes before another handle on it. -/
def AreApart (nodes : List N) : Prop :=
  nodes.Pairwise fun a b => sameNode a b = false

/- Nodes that are kept are apart. -/
theorem areApart_keepNew (seen nodes : List N) :
    AreApart (keepNew seen nodes) := by
  induction nodes generalizing seen with
  | nil => exact .nil
  | cons node rest ih =>
      rw [keepNew]
      split
      · exact ih seen
      · refine List.pairwise_cons.mpr ⟨?_, ih (seen ++ [node])⟩
        intro x hx
        exact sameNode_of_mem_keepNew hx
          (List.mem_append_right _ List.mem_cons_self)

/- The nodes that a step leads to are apart. -/
theorem areApart_narrow (nodes : List N) (label : String) :
    AreApart (narrow nodes label) := by
  unfold narrow selectAll
  cases nodes.mapM (select · label) with
  | error e => exact .nil
  | ok found => exact areApart_keepNew [] found.flatten

/- From nodes that are apart a path leads to nodes that are. -/
theorem areApart_resolvePath
    {nodes : List N}
    (hApart : AreApart nodes)
    (path : Path) :
    AreApart (resolvePath nodes path) := by
  induction path generalizing nodes with
  | nil => exact hApart.sublist List.filter_sublist
  | cons label path ih =>
      rw [resolvePath_cons]
      exact ih (areApart_narrow _ label)

/- From one node a path leads to nodes that are apart. -/
theorem areApart_resolvePath_singleton (node : N) (path : Path) :
    AreApart (resolvePath [node] path) :=
  areApart_resolvePath (List.pairwise_singleton _ node) path

------------------------------------------------------------
-- Nodes below a Node
------------------------------------------------------------

/- A node that a step leads to was selected below one of the nodes. -/
theorem exists_select_of_mem_narrow
    {nodes : List N}
    {label : String}
    {x : N}
    (hx : x ∈ narrow nodes label) :
    ∃ n ∈ nodes, ∃ found, select n label = .ok found ∧ x ∈ found := by
  unfold narrow selectAll at hx
  cases hRead : nodes.mapM (select · label) with
  | error e =>
      rw [hRead] at hx
      cases hx
  | ok found =>
      rw [hRead] at hx
      rcases List.mem_flatten.mp (mem_of_mem_keepNew hx).1 with
        ⟨some, hSome, hx⟩
      rcases exists_of_mem_mapM hRead hSome with ⟨n, hn, hSelect⟩
      exact ⟨n, hn, some, hSelect, hx⟩

/-
  A way to say that a node is inside another one, or is that node
  itself, for which labels and repetition lead only inwards; and
  the matches of a level are different nodes.
-/
structure IsDescent (Within : N → N → Prop) : Prop where
  refl : ∀ x, Within x x
  trans : ∀ {x y z}, Within x y → Within y z → Within x z
  select : ∀ {x label found}, select x label = .ok found →
    ∀ y ∈ found, Within x y
  apart : ∀ (level : Level) (node : N),
    AreApart (Selector.spread level node).2

variable {Within : N → N → Prop}

/- A path leads to nodes inside those where it starts. -/
theorem IsDescent.exists_of_mem_resolvePath
    (hDescent : IsDescent Within)
    {nodes : List N}
    {path : Path}
    {x : N}
    (hx : x ∈ resolvePath nodes path) :
    ∃ n ∈ nodes, Within n x := by
  induction path generalizing nodes with
  | nil =>
      rw [resolvePath_nil] at hx
      exact ⟨x, (List.mem_filter.mp hx).1, hDescent.refl x⟩
  | cons label path ih =>
      rw [resolvePath_cons] at hx
      rcases ih hx with ⟨m, hm, hInner⟩
      rcases exists_select_of_mem_narrow hm with
        ⟨n, hn, found, hSelect, hFound⟩
      exact ⟨n, (List.mem_filter.mp hn).1,
        hDescent.trans (hDescent.select hSelect m hFound) hInner⟩

/- From one node a path leads to nodes inside it. -/
theorem IsDescent.of_mem_resolvePath_singleton
    (hDescent : IsDescent Within)
    {node x : N}
    {path : Path}
    (hx : x ∈ resolvePath [node] path) :
    Within node x := by
  rcases hDescent.exists_of_mem_resolvePath hx with ⟨n, hn, hWithin⟩
  rw [List.mem_singleton.mp hn] at hWithin
  exact hWithin

end Cursor

------------------------------------------------------------
-- Hits
------------------------------------------------------------

namespace Hit

variable {N : Type}
variable [Cursor N]

/-
  The hit is a node inside another one that is not empty, or it is
  one strict decimal or more.
-/
def IsFound (Within : N → N → Prop) (last : N) : Hit N → Prop
  | .node n => Cursor.isEmpty n = false ∧ Within last n
  | .values vs =>
      vs ≠ [] ∧ ∀ v ∈ vs, Decimal.isStrict v.toList = true

/- The hits are not two handles on one node. -/
def IsApart : Hit N → Hit N → Prop
  | .node m, .node n => Cursor.sameNode m n = false
  | _, _ => True

end Hit

/- The numbers of a text are strict decimals. -/
theorem Decimal.isStrict_of_mem_values
    {s v : String}
    (hValue : v ∈ values s) :
    isStrict v.toList = true :=
  isStrict_iff.mpr (of_mem_values hValue).1

namespace Selector

open Cursor

variable {N : Type}
variable [Cursor N]
variable {Within : N → N → Prop}

/- What a tail picks below a node is found there. -/
theorem isFound_of_mem_pickTail
    (hDescent : IsDescent Within)
    {tail : Tail}
    {p : Position}
    {node : N}
    {m : Match N}
    (hPicked : m ∈ pickTail tail p node) :
    m.hit.IsFound Within node := by
  rcases exists_of_mem_pickTail hPicked with
    ⟨n, hn, rfl⟩ | ⟨texts, hFilled, rfl⟩
  · exact ⟨isEmpty_of_mem_resolvePath hn,
      hDescent.of_mem_resolvePath_singleton hn⟩
  · refine ⟨hFilled, ?_⟩
    intro v hv
    rcases List.mem_flatMap.mp hv with ⟨_, _, hValue⟩
    exact Decimal.isStrict_of_mem_values hValue

/- The nodes that a tail picks below one node are apart. -/
theorem pairwise_pickTail
    (tail : Tail)
    (p : Position)
    (node : N) :
    (pickTail tail p node).Pairwise fun a b => a.hit.IsApart b.hit := by
  unfold pickTail
  split
  · rw [List.pairwise_map]
    exact areApart_resolvePath_singleton node tail.path
  · rw [List.pairwise_filterMap]
    apply List.pairwise_of_forall
    intro x y a ha b hb
    -- numbers are no nodes
    dsimp only at ha hb
    split at ha
    · cases ha
    · cases ha
      split at hb
      · cases hb
      · cases hb
        trivial

------------------------------------------------------------
-- Chains of Matches
------------------------------------------------------------

/- On every level two routes take the same node. -/
def SameChain (route other : List (Crossing N)) : Prop :=
  List.Forall₂ (fun c d => sameNode c.node d.node = true) route other

/- Of two routes by the same nodes none is in front of the other. -/
theorem Leads.not_precedes
    (hDescent : IsDescent Within)
    {levels : List Level}
    {node last final : N}
    {route other : List (Crossing N)}
    (hRoute : Leads levels node route last)
    (hOther : Leads levels node other final)
    (hChain : SameChain route other) :
    ¬ Precedes route other := by
  induction hRoute generalizing other with
  | here =>
      intro hPrecedes
      cases hPrecedes
  | @cross level rest node found last i route hFound _ ih =>
      cases hOther with
      | @cross _ _ _ found' _ j other hFound' hOther =>
          rcases List.forall₂_cons.mp hChain with ⟨hSame, hRest⟩
          intro hPrecedes
          cases hPrecedes with
          | here _ hIndex =>
              have hApart := List.pairwise_iff_getElem.mp
                (hDescent.apart level node)
              rcases List.getElem?_eq_some_iff.mp hFound with ⟨hi, rfl⟩
              rcases List.getElem?_eq_some_iff.mp hFound' with ⟨hj, rfl⟩
              rw [hApart i j hi hj hIndex] at hSame
              cases hSame
          | there hPrecedes =>
              exact ih hOther hRest hPrecedes

/-
  The hits of an expression and the routes to them.  Every route
  crosses all levels; its hits are picked where it ends, which is
  the last match, or the root if there are no levels, and they are
  found there.  Hits on one chain of matches are apart.
-/
structure HitsFit
    (Within : N → N → Prop)
    (root : N)
    (s : Selector) : Prop where
  all : (routed root s).map Prod.snd = resolve root s
  picked : ∀ route m, (route, m) ∈ routed root s →
    Leads s.levels root route (endOf root route) ∧
      m ∈ pickTail s.tail m.position (endOf root route)
  found : ∀ route m, (route, m) ∈ routed root s →
    m.hit.IsFound Within (endOf root route)
  apart : (routed root s).Pairwise fun a b =>
    SameChain a.1 b.1 → a.2.hit.IsApart b.2.hit

/- In every kind of tree the hits fit their routes. -/
theorem hitsFit
    (hDescent : IsDescent Within)
    (root : N)
    (s : Selector) :
    HitsFit Within root s where
  all := map_snd_routed root s
  picked := by
    intro route m hm
    rcases mem_routed_iff.mp hm with ⟨last, hLeads, hPicked⟩
    obtain rfl := (leads_iff.mp hLeads).2
    rw [position_of_mem_pickTail hPicked]
    exact ⟨hLeads, hPicked⟩
  found := by
    intro route m hm
    rcases mem_routed_iff.mp hm with ⟨last, hLeads, hPicked⟩
    obtain rfl := (leads_iff.mp hLeads).2
    exact isFound_of_mem_pickTail hDescent hPicked
  apart := by
    have hOrdered := pairwise_routed root s (pairwise_pickTail s.tail)
    apply hOrdered.imp_of_mem
    rintro ⟨route, m⟩ ⟨other, n⟩ hm hn hOrder hChain
    rcases hOrder with ⟨_, hApart⟩ | hPrecedes
    · exact hApart
    · rcases mem_routed_iff.mp hm with ⟨_, hRoute, _⟩
      rcases mem_routed_iff.mp hn with ⟨_, hOther, _⟩
      exact absurd hPrecedes (hRoute.not_precedes hDescent hOther hChain)

end Selector

end Gleaner
