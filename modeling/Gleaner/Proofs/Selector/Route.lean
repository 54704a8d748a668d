import Gleaner.Selector.Resolve
import Mathlib.Data.List.Lex

/-
  The routes of an expression.  A route says by which match each
  level was crossed, and the position of a result is read off
  the route that led to it.

  Main declarations:
    * `Crossing`
    * `Selector.Leads`
    * `Selector.routes`
    * `Selector.walk_eq_flatMap`
    * `Selector.pairwise_routes`
    * `Selector.IsPlaced`
    * `Selector.isPlaced_arrive`
    * `Selector.resolve_routes`
-/

namespace Gleaner

------------------------------------------------------------
-- Crossings
------------------------------------------------------------

/-
  A level that was crossed: the style labels that were found
  there, the number of the match that was taken, and the match.
-/
structure Crossing (N : Type) where
  labels : List String
  index : Nat
  node : N

namespace Crossing

variable {N : Type}

/- The number of the match, or of its round among the labels. -/
def slot (c : Crossing N) : Nat :=
  if c.labels.isEmpty then c.index else c.index / c.labels.length

/- The label that the match takes, if there are labels. -/
def label? (c : Crossing N) : Option String :=
  c.labels[c.index % c.labels.length]?

/- Without labels the slot is the number of the match. -/
theorem slot_of_labels_eq_nil
    {c : Crossing N}
    (hNone : c.labels = []) :
    c.slot = c.index := by
  simp [slot, hNone]

/- Of two matches among the same labels the later has no less a slot. -/
theorem slot_le_slot
    {c d : Crossing N}
    (hLabels : c.labels = d.labels)
    (hIndex : c.index < d.index) :
    c.slot ≤ d.slot := by
  unfold slot
  rw [hLabels]
  split
  · exact Nat.le_of_lt hIndex
  · exact Nat.div_le_div_right (Nat.le_of_lt hIndex)

end Crossing

namespace Selector

variable {N : Type}

------------------------------------------------------------
-- Routes
------------------------------------------------------------

section Routes

variable [Cursor N]

/-
  A route crosses one level after another, each by a match that
  the level has below the node reached so far.
-/
inductive Leads : List Level → N → List (Crossing N) → N → Prop
  | here
      {node : N} :
      Leads [] node [] node
  | cross
      {level : Level}
      {rest : List Level}
      {node found last : N}
      {i : Nat}
      {route : List (Crossing N)}
      (hFound : (spread level node).2[i]? = some found)
      (hRest : Leads rest found route last) :
      Leads (level :: rest) node
        (⟨(spread level node).1, i, found⟩ :: route) last

/- All ways to cross a level below a node. -/
def crossings (level : Level) (node : N) : List (Crossing N) :=
  (spread level node).2.zipIdx.map fun (found, i) =>
    ⟨(spread level node).1, i, found⟩

/- All routes below a node, in the order of the matches. -/
def routes : List Level → N → List (List (Crossing N))
  | [], _ => [[]]
  | level :: rest, node =>
      (crossings level node).flatMap fun c =>
        (routes rest c.node).map (c :: ·)

/- The node where a route ends. -/
def endOf : N → List (Crossing N) → N
  | node, [] => node
  | _, c :: route => endOf c.node route

variable {levels : List Level} {node last : N} {route : List (Crossing N)}

/- A crossing takes a match by its number. -/
theorem mem_crossings_iff
    {level : Level}
    {c : Crossing N} :
    c ∈ crossings level node ↔
      c.labels = (spread level node).1 ∧
        (spread level node).2[c.index]? = some c.node := by
  unfold crossings
  rw [List.mem_map]
  constructor
  · rintro ⟨⟨found, i⟩, hFound, rfl⟩
    exact ⟨rfl, List.mem_zipIdx_iff_getElem?.mp hFound⟩
  · rintro ⟨hLabels, hFound⟩
    rcases c with ⟨labels, i, found⟩
    cases hLabels
    exact ⟨(found, i), List.mem_zipIdx_iff_getElem?.mpr hFound, rfl⟩

/- The routes are those that lead somewhere. -/
theorem leads_iff :
    Leads levels node route last ↔
      route ∈ routes levels node ∧ last = endOf node route := by
  constructor
  · intro hLeads
    induction hLeads with
    | here => exact ⟨List.mem_singleton.mpr rfl, rfl⟩
    | cross hFound _ ih =>
        refine ⟨?_, ih.2⟩
        rw [routes, List.mem_flatMap]
        exact ⟨_, mem_crossings_iff.mpr ⟨rfl, hFound⟩,
          List.mem_map_of_mem ih.1⟩
  · rintro ⟨hRoute, rfl⟩
    induction levels generalizing node route with
    | nil =>
        cases List.mem_singleton.mp hRoute
        exact .here
    | cons level rest ih =>
        rw [routes, List.mem_flatMap] at hRoute
        rcases hRoute with ⟨c, hCrossing, hRoute⟩
        rcases List.mem_map.mp hRoute with ⟨more, hMore, rfl⟩
        rcases mem_crossings_iff.mp hCrossing with ⟨hLabels, hFound⟩
        rcases c with ⟨labels, i, found⟩
        cases hLabels
        exact .cross hFound (ih hMore)

/- A route crosses every level once. -/
theorem Leads.length_eq
    (hLeads : Leads levels node route last) :
    route.length = levels.length := by
  induction hLeads with
  | here => rfl
  | cross _ _ ih => rw [List.length_cons, List.length_cons, ih]

/- A level without a style pair is crossed without labels. -/
theorem Leads.labels_eq_nil
    (hLeads : Leads levels node route last)
    (hPlain : ∀ l ∈ levels, l.style = none) :
    ∀ c ∈ route, c.labels = [] := by
  induction hLeads with
  | here => simp
  | @cross level rest node _ _ _ _ _ _ ih =>
      rw [List.forall_mem_cons] at hPlain ⊢
      refine ⟨?_, ih hPlain.2⟩
      simp [spread, hPlain.1]

/- Without style pairs the slots are the numbers of the matches. -/
theorem Leads.map_slot_eq
    (hLeads : Leads levels node route last)
    (hPlain : ∀ l ∈ levels, l.style = none) :
    route.map Crossing.slot = route.map Crossing.index :=
  List.map_congr_left fun c hc =>
    Crossing.slot_of_labels_eq_nil (hLeads.labels_eq_nil hPlain c hc)

/-
  All levels but the last are crossed without labels if none of
  them has a style pair.
-/
theorem Leads.dropLast_labels_eq_nil
    (hLeads : Leads levels node route last)
    (hPlain : ∀ l ∈ levels.dropLast, l.style = none) :
    ∀ c ∈ route.dropLast, c.labels = [] := by
  induction hLeads with
  | here => simp
  | @cross level rest node _ _ _ route _ hRest ih =>
      have hLength := hRest.length_eq
      cases rest with
      | nil =>
          rw [List.length_nil, List.length_eq_zero_iff] at hLength
          simp [hLength]
      | cons next rest =>
          cases route with
          | nil => cases hLength
          | cons c route =>
              rw [List.dropLast_cons_cons, List.forall_mem_cons]
                at hPlain ⊢
              refine ⟨?_, ih hPlain.2⟩
              simp [spread, hPlain.1]

end Routes

------------------------------------------------------------
-- The Order of Routes
------------------------------------------------------------

/-
  One route leaves another on some level where both choose among
  the same labels, by an earlier match.
-/
inductive Precedes : List (Crossing N) → List (Crossing N) → Prop
  | here
      {c d : Crossing N}
      {route other : List (Crossing N)}
      (hLabels : c.labels = d.labels)
      (hIndex : c.index < d.index) :
      Precedes (c :: route) (d :: other)
  | there
      {c : Crossing N}
      {route other : List (Crossing N)}
      (hRest : Precedes route other) :
      Precedes (c :: route) (c :: other)

/- Numbered items come in the order of their numbers. -/
theorem pairwise_zipIdx
    {α : Type}
    (items : List α) :
    items.zipIdx.Pairwise fun a b => a.2 < b.2 := by
  have hIndices : (items.zipIdx.map Prod.snd).Pairwise (· < ·) := by
    rw [List.zipIdx_map_snd, ← List.range_eq_range']
    exact List.pairwise_lt_range
  rwa [List.pairwise_map] at hIndices

/- The crossings of a level come in the order of the matches. -/
theorem pairwise_crossings
    [Cursor N]
    (level : Level)
    (node : N) :
    (crossings level node).Pairwise fun c d =>
      c.labels = d.labels ∧ c.index < d.index := by
  unfold crossings
  rw [List.pairwise_map]
  exact (pairwise_zipIdx _).imp fun hIndex => ⟨rfl, hIndex⟩

/- The routes come in the order of the matches, level by level. -/
theorem pairwise_routes
    [Cursor N]
    (levels : List Level)
    (node : N) :
    (routes levels node).Pairwise Precedes := by
  induction levels generalizing node with
  | nil => exact List.pairwise_singleton _ _
  | cons level rest ih =>
      rw [routes, List.pairwise_flatMap]
      constructor
      · intro c _
        rw [List.pairwise_map]
        exact (ih c.node).imp .there
      · apply (pairwise_crossings level node).imp
        rintro c d ⟨hLabels, hIndex⟩ route hRoute other hOther
        rcases List.mem_map.mp hRoute with ⟨_, _, rfl⟩
        rcases List.mem_map.mp hOther with ⟨_, _, rfl⟩
        exact .here hLabels hIndex

/- What is in front of the last item stays there behind another. -/
theorem mem_dropLast_cons
    {α : Type}
    {a b : α}
    {items : List α}
    (ha : a ∈ items.dropLast) :
    a ∈ (b :: items).dropLast := by
  cases items with
  | nil => cases ha
  | cons c items => exact List.mem_cons_of_mem _ ha

section Slots

variable {route other : List (Crossing N)}

/- An earlier route has smaller numbers. -/
theorem Precedes.indices_lt
    (hPrecedes : Precedes route other) :
    route.map Crossing.index < other.map Crossing.index := by
  induction hPrecedes with
  | here _ hIndex =>
      rw [List.map_cons, List.map_cons, List.cons_lt_cons_iff]
      exact .inl hIndex
  | there _ ih =>
      rw [List.map_cons, List.map_cons, List.cons_lt_cons_iff]
      exact .inr ⟨rfl, ih⟩

/-
  With labels on the last level alone an earlier route has no
  greater slots.
-/
theorem Precedes.slots_le
    (hPrecedes : Precedes route other)
    (hLength : route.length = other.length)
    (hRoute : ∀ c ∈ route.dropLast, c.labels = [])
    (hOther : ∀ c ∈ other.dropLast, c.labels = []) :
    route.map Crossing.slot ≤ other.map Crossing.slot := by
  induction hPrecedes with
  | @here c d route other hLabels hIndex =>
      rw [List.map_cons, List.map_cons]
      cases route with
      | nil =>
          cases other with
          | nil =>
              have hSlots := Crossing.slot_le_slot hLabels hIndex
              rcases Nat.lt_or_eq_of_le hSlots with hLess | hSame
              · exact le_of_lt (List.Lex.rel hLess)
              · rw [hSame]
          | cons _ _ => cases hLength
      | cons e route =>
          cases other with
          | nil => cases hLength
          | cons f other =>
              rw [List.dropLast_cons_cons, List.forall_mem_cons]
                at hRoute hOther
              rw [Crossing.slot_of_labels_eq_nil hRoute.1,
                Crossing.slot_of_labels_eq_nil hOther.1]
              exact le_of_lt (List.Lex.rel hIndex)
  | @there c route other hRest ih =>
      rw [List.map_cons, List.map_cons]
      apply List.cons_le_cons
      refine ih (Nat.succ.inj hLength) ?_ ?_
      · exact fun d hd => hRoute d (mem_dropLast_cons hd)
      · exact fun d hd => hOther d (mem_dropLast_cons hd)

end Slots

------------------------------------------------------------
-- Positions along a Route
------------------------------------------------------------

/- The position after a route, level by level. -/
def arrive (p : Position) :
    List Level → List (Crossing N) → Position
  | level :: levels, c :: route =>
      arrive (p.enter level.mapping c.label? c.slot) levels route
  | _, _ => p

/- The matches of a level are placed by their labels and slots. -/
theorem place_eq_map
    (level : Level)
    (labels : List String)
    (p : Position)
    (count : Nat) :
    place level labels p count =
      (List.range count).map fun i =>
        p.enter level.mapping labels[i % labels.length]?
          (if labels.isEmpty then i else i / labels.length) := by
  cases labels with
  | nil => simp [place]
  | cons label labels =>
      rw [place, zipStyles, List.isEmpty_cons, if_neg Bool.false_ne_true,
        List.map_map]
      apply List.map_congr_left
      intro i _
      have hLess : i % (label :: labels).length <
          (label :: labels).length :=
        Nat.mod_lt i (Nat.succ_pos _)
      rw [Function.comp_apply, List.getD_eq_getElem?_getD,
        List.getElem?_eq_getElem hLess]
      rfl

section Walks

variable [Cursor N]

/- A walk goes on behind each crossing of its first level. -/
theorem walk_cons
    (tail : Tail)
    (level : Level)
    (rest : List Level)
    (p : Position)
    (node : N) :
    walk tail (level :: rest) p node =
      (crossings level node).flatMap fun c =>
        walk tail rest (p.enter level.mapping c.label? c.slot) c.node := by
  rw [walk, crossings, List.flatMap_map]
  dsimp only
  rw [place_eq_map, List.zip_map_right, List.flatMap_map,
    List.range_eq_range', ← List.zipIdx_eq_zip_range']
  rfl

/- A walk picks the tail where each of its routes ends. -/
theorem walk_eq_flatMap
    (tail : Tail)
    (levels : List Level)
    (p : Position)
    (node : N) :
    walk tail levels p node =
      (routes levels node).flatMap fun route =>
        pickTail tail (arrive p levels route) (endOf node route) := by
  induction levels generalizing p node with
  | nil => simp [walk, routes, arrive, endOf]
  | cons level rest ih =>
      rw [walk_cons, routes, List.flatMap_assoc]
      congr 1
      funext c
      rw [ih, List.flatMap_map]
      rfl

/-
  The tail picks nodes that its path leads to, or the numbers of
  some texts, each with the position it was given.
-/
theorem exists_of_mem_pickTail
    {tail : Tail}
    {p : Position}
    {node : N}
    {m : Match N}
    (hPicked : m ∈ pickTail tail p node) :
    (∃ n ∈ Cursor.resolvePath [node] tail.path, m = ⟨.node n, p⟩) ∨
      ∃ texts : List String, texts.flatMap Decimal.values ≠ [] ∧
        m = ⟨.values (texts.flatMap Decimal.values), p⟩ := by
  unfold pickTail at hPicked
  split at hPicked
  · rcases List.mem_map.mp hPicked with ⟨n, hn, rfl⟩
    exact .inl ⟨n, hn, rfl⟩
  · rename_i alternatives _
    rcases List.mem_filterMap.mp hPicked with ⟨n, _, hSome⟩
    dsimp only at hSome
    split at hSome
    · cases hSome
    · rename_i hFilled
      cases hSome
      right
      refine ⟨(alternatives.flatMap (Cursor.resolvePath [n])).map
        Cursor.rendered, ?_⟩
      rw [List.flatMap_map]
      exact ⟨mt List.isEmpty_iff.mpr hFilled, rfl⟩

/- Everything that the tail picks has the position it was given. -/
theorem position_of_mem_pickTail
    {tail : Tail}
    {p : Position}
    {node : N}
    {m : Match N}
    (hPicked : m ∈ pickTail tail p node) :
    m.position = p := by
  rcases exists_of_mem_pickTail hPicked with ⟨_, _, rfl⟩ | ⟨_, _, rfl⟩
  · rfl
  · rfl

end Walks

------------------------------------------------------------
-- What a Position Says
------------------------------------------------------------

/- The slot on the last mapping level. -/
def goodSlot (levels : List Level) (slots : List Nat) : Option Nat :=
  ((levels.zip slots).filter (·.1.mapping)).getLast?.map Prod.snd

/- The slot on the first level that is no mapping. -/
def plainSlot (levels : List Level) (slots : List Nat) : Option Nat :=
  ((levels.zip slots).find? (!·.1.mapping)).map Prod.snd

/-
  The slot on the first level that is no mapping among those
  behind the first mapping level.
-/
def numSlot (levels : List Level) (slots : List Nat) : Option Nat :=
  (((levels.zip slots).dropWhile (!·.1.mapping)).find?
    (!·.1.mapping)).map Prod.snd

/- The label taken on the deepest level that had labels, if any. -/
def styleOf (route : List (Crossing N)) : String :=
  (route.filterMap Crossing.label?).getLast?.getD ""

/- The position of a result is read off its route. -/
structure IsPlaced
    (levels : List Level)
    (route : List (Crossing N))
    (p : Position) : Prop where
  length : p.levels.length = levels.length
  names : ∀ d c, route[d]? = some c →
    p.levels[d]? =
      some ("level" ++ toString (d + 1) ++ "-" ++ toString c.slot)
  goodId : p.goodId = goodSlot levels (route.map Crossing.slot)
  numId : p.numId = numSlot levels (route.map Crossing.slot)
  style : p.style = styleOf route

section Fields

variable
  {levels : List Level}
  {route : List (Crossing N)}
  (hLength : route.length = levels.length)
  (p : Position)

include hLength

/- The slots of a route are added one by one. -/
theorem slots_arrive :
    (arrive p levels route).slots = p.slots ++ route.map Crossing.slot := by
  induction levels generalizing route p with
  | nil =>
      rw [List.length_eq_zero_iff.mp hLength]
      simp [arrive]
  | cons level levels ih =>
      cases route with
      | nil => cases hLength
      | cons c route =>
          rw [arrive, ih (Nat.succ.inj hLength)]
          simp [Position.enter]

/- Every mapping level sets the slot of the variant anew. -/
theorem goodId_arrive :
    (arrive p levels route).goodId =
      (goodSlot levels (route.map Crossing.slot)).or p.goodId := by
  induction levels generalizing route p with
  | nil => simp [arrive, goodSlot]
  | cons level levels ih =>
      cases route with
      | nil => cases hLength
      | cons c route =>
          rw [arrive, ih (Nat.succ.inj hLength)]
          cases hMapping : level.mapping with
          | true =>
              simp only [goodSlot, Position.enter, hMapping, if_true,
                List.map_cons, List.zip_cons_cons, List.filter_cons,
                List.getLast?_cons]
              cases ((levels.zip (route.map Crossing.slot)).filter
                (·.1.mapping)).getLast? <;> rfl
          | false => simp [goodSlot, Position.enter, hMapping]

/-
  The slot of the row is set once, on the first plain level that
  is entered when there is a slot of the variant.
-/
theorem numId_arrive :
    (arrive p levels route).numId =
      p.numId.or
        (if p.goodId.isSome then
          plainSlot levels (route.map Crossing.slot)
        else numSlot levels (route.map Crossing.slot)) := by
  induction levels generalizing route p with
  | nil => simp [arrive, plainSlot, numSlot]
  | cons level levels ih =>
      cases route with
      | nil => cases hLength
      | cons c route =>
          rw [arrive, ih (Nat.succ.inj hLength)]
          cases hMapping : level.mapping with
          | true =>
              simp [plainSlot, numSlot, Position.enter, hMapping]
          | false =>
              cases hGood : p.goodId with
              | none =>
                  simp [numSlot, Position.enter, hMapping, hGood]
              | some good =>
                  cases hNum : p.numId with
                  | none =>
                      simp [plainSlot, Position.enter, hMapping, hGood,
                        hNum]
                  | some num =>
                      simp [plainSlot, Position.enter, hMapping, hGood,
                        hNum]

/- Every level with labels sets the style anew. -/
theorem style_arrive :
    (arrive p levels route).style =
      (route.filterMap Crossing.label?).getLast?.getD p.style := by
  induction levels generalizing route p with
  | nil =>
      rw [List.length_eq_zero_iff.mp hLength]
      rfl
  | cons level levels ih =>
      cases route with
      | nil => cases hLength
      | cons c route =>
          rw [arrive, ih (Nat.succ.inj hLength)]
          cases hLabel : c.label? with
          | none => simp [Position.enter, hLabel]
          | some label =>
              simp [Position.enter, hLabel, List.getLast?_cons]

/- The position after a route is what the route says. -/
theorem isPlaced_arrive :
    IsPlaced levels route (arrive .outside levels route) where
  length := by
    rw [Position.levels, slots_arrive hLength]
    simp [Position.outside, hLength]
  names := by
    intro d c hCrossing
    rw [Position.levels, slots_arrive hLength]
    simp [Position.outside, Position.slotName, hCrossing]
  goodId := by
    rw [goodId_arrive hLength]
    simp [Position.outside]
  numId := by
    rw [numId_arrive hLength]
    simp [Position.outside]
  style := style_arrive hLength .outside

end Fields

------------------------------------------------------------
-- Results
------------------------------------------------------------

section Results

variable [Cursor N]

/- The results of an expression, each with the route to it. -/
def routed (root : N) (s : Selector) :
    List (List (Crossing N) × Match N) :=
  (routes s.levels root).flatMap fun route =>
    (pickTail s.tail (arrive .outside s.levels route)
      (endOf root route)).map (route, ·)

/- The results with their routes are the results. -/
theorem map_snd_routed (root : N) (s : Selector) :
    (routed root s).map Prod.snd = resolve root s := by
  rw [routed, List.map_flatMap, resolve, walk_eq_flatMap]
  congr 1
  funext route
  rw [List.map_map]
  exact List.map_id' _

/- Every result is picked where its route ends. -/
theorem mem_routed_iff
    {root : N}
    {s : Selector}
    {route : List (Crossing N)}
    {m : Match N} :
    (route, m) ∈ routed root s ↔
      ∃ last, Leads s.levels root route last ∧
        m ∈ pickTail s.tail (arrive .outside s.levels route) last := by
  rw [routed, List.mem_flatMap]
  constructor
  · rintro ⟨other, hRoute, hPicked⟩
    rcases List.mem_map.mp hPicked with ⟨_, hm, hSame⟩
    cases hSame
    exact ⟨_, leads_iff.mpr ⟨hRoute, rfl⟩, hm⟩
  · rintro ⟨last, hLeads, hPicked⟩
    rcases leads_iff.mp hLeads with ⟨hRoute, rfl⟩
    exact ⟨route, hRoute, List.mem_map_of_mem hPicked⟩

/-
  Results come in the order of their routes, and those of one
  route in the order in which the tail picks them.
-/
theorem pairwise_routed
    {R : Match N → Match N → Prop}
    (root : N)
    (s : Selector)
    (hPicked : ∀ p node, (pickTail s.tail p node).Pairwise R) :
    (routed root s).Pairwise fun a b =>
      a.1 = b.1 ∧ R a.2 b.2 ∨ Precedes a.1 b.1 := by
  rw [routed, List.pairwise_flatMap]
  constructor
  · intro route _
    rw [List.pairwise_map]
    exact (hPicked _ _).imp fun hR => .inl ⟨rfl, hR⟩
  · apply (pairwise_routes s.levels root).imp
    intro route other hPrecedes a ha b hb
    rcases List.mem_map.mp ha with ⟨_, _, rfl⟩
    rcases List.mem_map.mp hb with ⟨_, _, rfl⟩
    exact .inr hPrecedes

/-
  Every result is picked at the end of a route that crosses all
  levels, and its position is read off that route: one slot for
  each level, the slots of the variant and of the row, and the
  style.  If only the last level has a style pair, the results
  come in the order of their slots.
-/
theorem resolve_routes (root : N) (s : Selector) :
    ∃ found : List (List (Crossing N) × Match N),
      found.map Prod.snd = resolve root s ∧
      (∀ route m, (route, m) ∈ found →
        (∃ last, Leads s.levels root route last ∧
          m ∈ pickTail s.tail m.position last) ∧
        IsPlaced s.levels route m.position) ∧
      ((∀ l ∈ s.levels.dropLast, l.style = none) →
        found.Pairwise fun a b =>
          a.1.map Crossing.slot ≤ b.1.map Crossing.slot) := by
  refine ⟨routed root s, map_snd_routed root s, ?_, ?_⟩
  · intro route m hFound
    rcases mem_routed_iff.mp hFound with ⟨last, hLeads, hPicked⟩
    have hPosition := position_of_mem_pickTail hPicked
    rw [hPosition]
    exact ⟨⟨last, hLeads, hPicked⟩, isPlaced_arrive hLeads.length_eq⟩
  · intro hPlain
    have hOrdered := pairwise_routed (R := fun _ _ => True) root s
      fun _ _ => List.pairwise_of_forall fun _ _ => trivial
    apply hOrdered.imp_of_mem
    rintro ⟨route, m⟩ ⟨other, n⟩ hFirst hSecond hOrder
    rcases mem_routed_iff.mp hFirst with ⟨_, hRoute, _⟩
    rcases mem_routed_iff.mp hSecond with ⟨_, hOther, _⟩
    rcases hOrder with ⟨hSame, _⟩ | hPrecedes
    · cases hSame
      exact le_refl _
    · exact hPrecedes.slots_le
        (hRoute.length_eq.trans hOther.length_eq.symm)
        (hRoute.dropLast_labels_eq_nil hPlain)
        (hOther.dropLast_labels_eq_nil hPlain)

end Results

end Selector

end Gleaner
