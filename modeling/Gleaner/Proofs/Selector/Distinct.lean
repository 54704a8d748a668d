import Gleaner.Proofs.List.FirstOccurrence
import Gleaner.Proofs.Selector.Route
import Gleaner.Tree.Data

/-
  Positions tell results apart.  With at most one style pair the
  style and the slots of a result say which match was taken on
  every level.

  Main declarations:
    * `Position.slots_eq_of_levels_eq`
    * `Crossing.index_eq`
    * `Selector.nodup_labels_spread`
    * `Selector.Leads.route_eq`
    * `Selector.route_eq_of_position_eq`
-/

namespace Gleaner

------------------------------------------------------------
-- Names of Slots
------------------------------------------------------------

namespace Position

/- On one level different slots have different names. -/
theorem slotName_injective (level : Nat) :
    Function.Injective (slotName level) := by
  intro slot other hName
  rw [slotName, slotName, String.append_right_inj] at hName
  have hDigits : Nat.toDigits 10 slot = Nat.toDigits 10 other := by
    simpa using congrArg String.toList hName
  have hRead := congrArg (Nat.ofDigitChars 10 · 0) hDigits
  simpa using hRead

/- The name of a slot stands where the slot stands. -/
theorem getElem?_levels (p : Position) (i : Nat) :
    p.levels[i]? = p.slots[i]?.map (slotName (i + 1)) := by
  simp [levels, Function.comp_def]

/- The names of the slots say what the slots are. -/
theorem slots_eq_of_levels_eq
    {p q : Position}
    (hLevels : p.levels = q.levels) :
    p.slots = q.slots := by
  apply List.ext_getElem?
  intro i
  apply Option.map_injective (slotName_injective (i + 1))
  rw [← getElem?_levels, ← getElem?_levels, hLevels]

end Position

------------------------------------------------------------
-- Crossings of One Level
------------------------------------------------------------

namespace Crossing

variable {N : Type}
variable {c d : Crossing N}

/- Without labels a match takes none. -/
theorem label?_of_labels_eq_nil
    (hNone : c.labels = []) :
    c.label? = none := by
  simp [label?, hNone]

/- Among labels a match takes one. -/
theorem exists_label?
    (c : Crossing N)
    (hSome : c.labels ≠ []) :
    ∃ label, c.label? = some label := by
  have hLess : c.index % c.labels.length < c.labels.length :=
    Nat.mod_lt _ (List.length_pos_of_ne_nil hSome)
  exact ⟨_, List.getElem?_eq_getElem hLess⟩

/-
  Among the same labels, each there once, the slot and the label
  of a match are the quotient and the remainder of its number.
-/
theorem index_eq
    (hLabels : c.labels = d.labels)
    (hNodup : c.labels.Nodup)
    (hSlot : c.slot = d.slot)
    (hLabel : c.label? = d.label?) :
    c.index = d.index := by
  by_cases hNone : c.labels = []
  · rw [slot_of_labels_eq_nil hNone,
      slot_of_labels_eq_nil (hLabels ▸ hNone)] at hSlot
    exact hSlot
  · have hPositive : 0 < c.labels.length :=
      List.length_pos_of_ne_nil hNone
    have hRound :
        c.index / c.labels.length = d.index / c.labels.length := by
      rw [slot, slot, ← hLabels, List.isEmpty_eq_false_iff.mpr hNone]
        at hSlot
      exact hSlot
    have hTurn :
        c.index % c.labels.length = d.index % c.labels.length := by
      rw [label?, label?, ← hLabels] at hLabel
      exact (List.getElem?_inj (Nat.mod_lt _ hPositive) hNodup).mp hLabel
    rw [← Nat.div_add_mod c.index c.labels.length, hRound, hTurn,
      Nat.div_add_mod]

end Crossing

namespace Selector

variable {N : Type}

/- A crossing without labels leaves the style to those behind it. -/
theorem styleOf_cons_of_labels_eq_nil
    {c : Crossing N}
    (hNone : c.labels = [])
    (route : List (Crossing N)) :
    styleOf (c :: route) = styleOf route := by
  rw [styleOf, List.filterMap_cons_none (c.label?_of_labels_eq_nil hNone)]
  rfl

/- Without labels behind it the first level gives the style. -/
theorem styleOf_cons_of_forall
    {route : List (Crossing N)}
    (hNone : ∀ d ∈ route, d.labels = [])
    (c : Crossing N) :
    styleOf (c :: route) = c.label?.getD "" := by
  have hRest : route.filterMap Crossing.label? = [] := by
    rw [List.filterMap_eq_nil_iff]
    intro d hd
    exact d.label?_of_labels_eq_nil (hNone d hd)
  rw [styleOf, List.filterMap_cons, hRest]
  cases c.label? <;> rfl

/- Without any labels there is no style. -/
theorem styleOf_of_forall
    {route : List (Crossing N)}
    (hNone : ∀ d ∈ route, d.labels = []) :
    styleOf route = "" := by
  cases route with
  | nil => rfl
  | cons c route =>
      rw [List.forall_mem_cons] at hNone
      rw [styleOf_cons_of_forall hNone.2,
        c.label?_of_labels_eq_nil hNone.1]
      rfl

/-
  The slot and the style tell by which match a level was crossed
  if no level behind it has labels when it has some.
-/
theorem index_eq_and_styleOf_eq
    {c d : Crossing N}
    {route other : List (Crossing N)}
    (hLabels : c.labels = d.labels)
    (hNodup : c.labels.Nodup)
    (hLast : c.labels ≠ [] →
      (∀ e ∈ route, e.labels = []) ∧ ∀ e ∈ other, e.labels = [])
    (hSlot : c.slot = d.slot)
    (hStyle : styleOf (c :: route) = styleOf (d :: other)) :
    c.index = d.index ∧ styleOf route = styleOf other := by
  by_cases hNone : c.labels = []
  · have hNoneToo : d.labels = [] := hLabels ▸ hNone
    rw [styleOf_cons_of_labels_eq_nil hNone,
      styleOf_cons_of_labels_eq_nil hNoneToo] at hStyle
    have hLabel : c.label? = d.label? := by
      rw [c.label?_of_labels_eq_nil hNone,
        d.label?_of_labels_eq_nil hNoneToo]
    exact ⟨Crossing.index_eq hLabels hNodup hSlot hLabel, hStyle⟩
  · rcases hLast hNone with ⟨hRoute, hOther⟩
    rw [styleOf_cons_of_forall hRoute, styleOf_cons_of_forall hOther]
      at hStyle
    have hLabel : c.label? = d.label? := by
      rcases c.exists_label? hNone with ⟨label, hTaken⟩
      rcases d.exists_label? (hLabels ▸ hNone) with ⟨label', hTaken'⟩
      rw [hTaken, hTaken'] at hStyle ⊢
      exact congrArg some hStyle
    refine ⟨Crossing.index_eq hLabels hNodup hSlot hLabel, ?_⟩
    rw [styleOf_of_forall hRoute, styleOf_of_forall hOther]

------------------------------------------------------------
-- Routes
------------------------------------------------------------

variable [Cursor N]

/- The style labels of a level are different from each other. -/
theorem nodup_labels_spread (level : Level) (node : N) :
    (spread level node).1.Nodup := by
  unfold spread
  cases level.style with
  | none => exact .nil
  | some style => exact nodup_eraseDups _

/- Behind the only level with a style pair there are plain levels. -/
theorem plain_of_labels_ne_nil
    {level : Level}
    {rest : List Level}
    {node : N}
    (hLabels : (spread level node).1 ≠ [])
    (hOne : (level :: rest).countP (·.style.isSome) ≤ 1) :
    ∀ l ∈ rest, l.style = none := by
  have hStyle : level.style.isSome = true := by
    cases hNone : level.style with
    | none => simp [spread, hNone] at hLabels
    | some style => rfl
  rw [List.countP_cons, if_pos hStyle] at hOne
  have hNone : rest.countP (·.style.isSome) = 0 := by
    omega
  rw [List.countP_eq_zero] at hNone
  intro l hl
  exact Option.not_isSome_iff_eq_none.mp (hNone l hl)

/-
  With at most one style pair a route is known by its slots and
  its style.  Before the level with the style pair, and behind
  it, the slots are the numbers of the matches.
-/
theorem Leads.route_eq
    {levels : List Level}
    {node last final : N}
    {route other : List (Crossing N)}
    (hRoute : Leads levels node route last)
    (hOther : Leads levels node other final)
    (hOne : levels.countP (·.style.isSome) ≤ 1)
    (hSlots : route.map Crossing.slot = other.map Crossing.slot)
    (hStyle : styleOf route = styleOf other) :
    route = other := by
  induction hRoute generalizing other with
  | here =>
      cases hOther
      rfl
  | @cross level rest node found last i route hFound hRest ih =>
      cases hOther with
      | @cross _ _ _ found' _ j other hFound' hOther =>
          rw [List.map_cons, List.map_cons, List.cons.injEq] at hSlots
          rcases hSlots with ⟨hSlot, hSlots⟩
          -- Labels here mean that the levels behind have no style pair.
          have hLast : (spread level node).1 ≠ [] →
              (∀ e ∈ route, e.labels = []) ∧
                ∀ e ∈ other, e.labels = [] := by
            intro hLabels
            have hPlain := plain_of_labels_ne_nil hLabels hOne
            exact ⟨hRest.labels_eq_nil hPlain,
              hOther.labels_eq_nil hPlain⟩
          have hSame := index_eq_and_styleOf_eq
            (c := ⟨_, i, found⟩) (d := ⟨_, j, found'⟩) rfl
            (nodup_labels_spread level node) hLast hSlot hStyle
          rcases hSame with ⟨rfl, hRestStyle⟩
          rw [hFound] at hFound'
          cases hFound'
          have hOneRest : rest.countP (·.style.isSome) ≤ 1 :=
            Nat.le_trans (List.sublist_cons_self level rest).countP_le hOne
          rw [ih hOther hOneRest hSlots hRestStyle]

------------------------------------------------------------
-- Results
------------------------------------------------------------

/-
  With at most one style pair the style and the slots of a
  result identify the route that led to it: two results that
  share them were reached through the same match on every level.
-/
theorem route_eq_of_position_eq
    (root : N)
    (s : Selector)
    (hOne : s.levels.countP (·.style.isSome) ≤ 1) :
    ∃ found : List (List (Crossing N) × Match N),
      found.map Prod.snd = resolve root s ∧
      (∀ route m, (route, m) ∈ found ↔
        ∃ last, Leads s.levels root route last ∧
          m ∈ pickTail s.tail (arrive .outside s.levels route) last) ∧
      ∀ a ∈ found, ∀ b ∈ found,
        a.2.position.style = b.2.position.style →
        a.2.position.levels = b.2.position.levels →
        a.1 = b.1 := by
  refine ⟨routed root s, map_snd_routed root s, ?_, ?_⟩
  · intro route m
    exact mem_routed_iff
  · rintro ⟨route, m⟩ hm ⟨other, n⟩ hn hStyle hLevels
    rcases mem_routed_iff.mp hm with ⟨last, hRoute, hPicked⟩
    rcases mem_routed_iff.mp hn with ⟨final, hOther, hPicked'⟩
    have hSlots := Position.slots_eq_of_levels_eq hLevels
    rw [position_of_mem_pickTail hPicked,
      position_of_mem_pickTail hPicked'] at hStyle hSlots
    rw [slots_arrive hRoute.length_eq, slots_arrive hOther.length_eq,
      List.append_cancel_left_eq] at hSlots
    rw [style_arrive hRoute.length_eq, style_arrive hOther.length_eq]
      at hStyle
    exact hRoute.route_eq hOther hOne hSlots hStyle

/- Three matches for two labels, with prices below them. -/
def styledPrices : Json :=
  .object [
    ("names", .array [.text "Red", .text "Blue", .text " Red"]),
    ("values", .array [
      .object [("p", .array [.text "1", .text "2"])],
      .object [("p", .array [.text "3"])],
      .object [("p", .array [.text "4"])]])]

/- The matches in their styles, and the prices one by one. -/
def styledLevels : Selector :=
  ⟨"\x7bnames:values\x7d;p;",
    [⟨false, [], some ⟨["names"], ["values"]⟩⟩, ⟨false, ["p"], none⟩],
    ⟨[], none⟩⟩

/- The labels are taken in turn, and every price is told apart. -/
theorem route_eq_of_position_eq_sample :
    styledLevels.levels.countP (·.style.isSome) ≤ 1 ∧
      (resolve (Json.Place.root styledPrices) styledLevels).map
        (fun m => (m.position.style, m.position.slots)) =
          [("Red", [0, 0]), ("Red", [0, 1]), ("Blue", [0, 0]),
            ("Red", [1, 0])] ∧
      ∃ found : List (List (Crossing Json.Place) × Match Json.Place),
        found.map Prod.snd =
          resolve (Json.Place.root styledPrices) styledLevels ∧
        ∀ a ∈ found, ∀ b ∈ found,
          a.2.position.style = b.2.position.style →
          a.2.position.levels = b.2.position.levels →
          a.1 = b.1 := by
  have hOne : styledLevels.levels.countP (·.style.isSome) ≤ 1 := by
    decide
  rcases route_eq_of_position_eq (Json.Place.root styledPrices)
      styledLevels hOne with
    ⟨found, hAll, _, hSame⟩
  exact ⟨hOne, by decide, found, hAll, hSame⟩

end Selector

end Gleaner
