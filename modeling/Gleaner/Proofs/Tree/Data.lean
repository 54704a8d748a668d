import Gleaner.Proofs.Selector.Route
import Gleaner.Proofs.Text.Trimming
import Gleaner.Proofs.Tree.Cursor
import Gleaner.Tree.Data

/-
  Expressions over JSON values.  Without style pairs and lists,
  an expression finds one value for each choice of items along
  its levels that can be walked, in the order of the choices.

  Main declarations:
    * `Json.follow?`
    * `Json.descend?`
    * `Json.item?`
    * `Json.reach?`
    * `Json.map_value_resolvePath`
    * `Json.resolve_root`
-/

namespace Gleaner

namespace Json

open Cursor

------------------------------------------------------------
-- Walks by Labels and Numbers
------------------------------------------------------------

/- Null, a blank text, and a list or an object without content. -/
def IsHollow : Json → Prop
  | .null => True
  | .text s => Text.AllBlank s.toList
  | .array items => items = []
  | .object fields => fields = []
  | .bool _ | .number _ => False

instance : DecidablePred IsHollow
  | .null => inferInstanceAs (Decidable True)
  | .text s => inferInstanceAs (Decidable (Text.AllBlank s.toList))
  | .array items => inferInstanceAs (Decidable (items = []))
  | .object fields => inferInstanceAs (Decidable (fields = []))
  | .bool _ => inferInstanceAs (Decidable False)
  | .number _ => inferInstanceAs (Decidable False)

/- A field of an object by its name, or an item by its number. -/
def step? (label : String) : Json → Option Json
  | .object fields => lookup label fields
  | .array items =>
      (Text.readNat? Text.maxWord label.toList).bind (items[·]?)
  | _ => none

/-
  Labels one after another.  No value is hollow, from the first
  to the last.
-/
def follow? : Path → Json → Option Json
  | [], v => if IsHollow v then none else some v
  | label :: path, v =>
      if IsHollow v then none
      else (step? label v).bind (follow? path)

/- The value that labels lead to one after another, hollow or not. -/
def descend? : Path → Json → Option Json
  | [], v => some v
  | label :: path, v => (step? label v).bind (descend? path)

/- An item of a list by its number, or else the value as item zero. -/
def item? (x : Nat) : Json → Option Json
  | .array items => items[x]?
  | v => if x = 0 then some v else none

/-
  On every level the labels of its scope and then the item with
  the number given, and behind all levels the labels of a tail.
-/
def reach? (tail : Path) : List Level → List Nat → Json → Option Json
  | [], [], v => follow? tail v
  | level :: rest, x :: xs, v =>
      (follow? level.scope v).bind fun u =>
        (item? x u).bind (reach? tail rest xs)
  | _, _, _ => none

------------------------------------------------------------
-- Paths
------------------------------------------------------------

/- A place is empty if its value is hollow. -/
theorem isEmpty_place_iff {p : Place} :
    isEmpty p = true ↔ IsHollow p.value := by
  have hBlank : ∀ s,
      (Text.strip s).isEmpty = true ↔ Text.AllBlank s.toList := by
    intro s
    rw [String.isEmpty_iff, ← Text.trim_eq_nil_iff, Text.strip,
      ← String.toList_inj]
    simp
  rcases p with ⟨trail, v⟩
  cases v with
  | null => simp [isEmpty, Place.isEmpty, IsHollow]
  | bool b => simp [isEmpty, Place.isEmpty, IsHollow]
  | number n => simp [isEmpty, Place.isEmpty, IsHollow]
  | text s => exact hBlank s
  | array items => exact List.isEmpty_iff
  | object fields => exact List.isEmpty_iff

/- A place is not empty if its value is not hollow. -/
theorem isEmpty_place_eq_false
    {p : Place}
    (hFilled : ¬ IsHollow p.value) :
    isEmpty p = false := by
  rw [← Bool.not_eq_true, isEmpty_place_iff]
  exact hFilled

/- A label leads to one place or to none. -/
theorem below_cases (p : Place) (label : String) :
    p.below label = [] ∧ step? label p.value = none ∨
      ∃ q, p.below label = [q] ∧ step? label p.value = some q.value := by
  rcases p with ⟨trail, v⟩
  cases v with
  | object fields =>
      simp only [Place.below, step?]
      cases lookup label fields with
      | none => exact .inl ⟨rfl, rfl⟩
      | some v => exact .inr ⟨_, rfl, rfl⟩
  | array items =>
      simp only [Place.below, step?]
      cases Text.readNat? Text.maxWord label.toList with
      | none => exact .inl ⟨rfl, rfl⟩
      | some i =>
          simp only [Option.bind_some]
          cases items[i]? with
          | none => exact .inl ⟨rfl, rfl⟩
          | some v => exact .inr ⟨_, rfl, rfl⟩
  | null => exact .inl ⟨rfl, rfl⟩
  | bool b => exact .inl ⟨rfl, rfl⟩
  | number n => exact .inl ⟨rfl, rfl⟩
  | text s => exact .inl ⟨rfl, rfl⟩

/- A path that starts with a label goes on from where that leads. -/
theorem resolvePath_place_cons
    {p : Place}
    (hFilled : isEmpty p = false)
    (label : String)
    (path : Path) :
    resolvePath [p] (label :: path) =
      resolvePath (p.below label) path := by
  have hRead : ∀ q : Place, select q label = .ok (q.below label) :=
    fun _ => rfl
  rw [resolvePath_cons, List.filter_cons_of_pos (by simp [hFilled]),
    List.filter_nil, narrow_of_select hRead, List.flatMap_singleton]
  rcases below_cases p label with ⟨hNone, _⟩ | ⟨q, hOne, _⟩
  · rw [hNone]
    rfl
  · rw [hOne, ← resolvePath_filter [q]]
    cases hEmpty : isEmpty q <;> simp [keepNew, hEmpty]

/- A path leads to the one value that its labels lead to. -/
theorem map_value_resolvePath (p : Place) (path : Path) :
    (resolvePath [p] path).map Place.value =
      (follow? path p.value).toList := by
  induction path generalizing p with
  | nil =>
      rw [resolvePath_nil, follow?]
      by_cases hHollow : IsHollow p.value
      · simp [isEmpty_place_iff.mpr hHollow, hHollow]
      · simp [isEmpty_place_eq_false hHollow, hHollow]
  | cons label path ih =>
      rw [follow?]
      by_cases hHollow : IsHollow p.value
      · rw [resolvePath_of_isEmpty (isEmpty_place_iff.mpr hHollow),
          if_pos hHollow]
        rfl
      · rw [resolvePath_place_cons (isEmpty_place_eq_false hHollow),
          if_neg hHollow]
        rcases below_cases p label with ⟨hNone, hStep⟩ | ⟨q, hOne, hStep⟩
        · rw [hNone, hStep, resolvePath_of_nil]
          rfl
        · rw [hOne, hStep, Option.bind_some]
          exact ih q

/- A path leads to one place or to none. -/
theorem resolvePath_cases (p : Place) (path : Path) :
    resolvePath [p] path = [] ∧ follow? path p.value = none ∨
      ∃ q, resolvePath [p] path = [q] ∧
        follow? path p.value = some q.value := by
  have hValue := map_value_resolvePath p path
  cases hFollow : follow? path p.value with
  | none =>
      rw [hFollow] at hValue
      exact .inl ⟨List.map_eq_nil_iff.mp hValue, rfl⟩
  | some v =>
      rw [hFollow] at hValue
      rcases List.map_eq_singleton_iff.mp hValue with ⟨q, hOne, hq⟩
      exact .inr ⟨q, hOne, by rw [hq]⟩

/- Nothing stands below a hollow value. -/
theorem step?_of_isHollow
    {v : Json}
    (hHollow : IsHollow v)
    (label : String) :
    step? label v = none := by
  cases v with
  | array items =>
      cases hHollow
      simp [step?]
  | object fields =>
      cases hHollow
      rfl
  | null | bool b | number n | text s => rfl

/- Labels are followed to what they lead to, unless it is hollow. -/
theorem follow?_of_descend?
    {path : Path}
    {v u : Json}
    (hReach : descend? path v = some u) :
    follow? path v = if IsHollow u then none else some u := by
  induction path generalizing v with
  | nil =>
      cases hReach
      rfl
  | cons label path ih =>
      rw [descend?] at hReach
      rcases Option.bind_eq_some_iff.mp hReach with ⟨w, hStep, hRest⟩
      have hFilled : ¬ IsHollow v := by
        intro hHollow
        rw [step?_of_isHollow hHollow] at hStep
        cases hStep
      rw [follow?, if_neg hFilled, hStep, Option.bind_some, ih hRest]

------------------------------------------------------------
-- Levels
------------------------------------------------------------

/- The items of a place are the items of its value. -/
theorem getElem?_items (p : Place) (x : Nat) :
    (p.items[x]?).map Place.value = item? x p.value := by
  rcases p with ⟨trail, v⟩
  cases v with
  | array items => simp [Place.items, item?, Function.comp_def]
  | null => cases x <;> simp [Place.items, item?]
  | bool b => cases x <;> simp [Place.items, item?]
  | number n => cases x <;> simp [Place.items, item?]
  | text s => cases x <;> simp [Place.items, item?]
  | object fields => cases x <;> simp [Place.items, item?]

/- The matches of a plain level are the items that its scope leads to. -/
theorem getElem?_spread
    {level : Level}
    (hPlain : level.style = none)
    (p : Place)
    (x : Nat) :
    ((Selector.spread level p).2[x]?).map Place.value =
      (follow? level.scope p.value).bind (item? x) := by
  rw [Selector.spread, hPlain]
  dsimp only
  rcases resolvePath_cases p level.scope with
    ⟨hNone, hFollow⟩ | ⟨q, hOne, hFollow⟩
  · rw [hNone, hFollow]
    rfl
  · rw [hOne, hFollow, Option.bind_some, expand, List.flatMap_singleton]
    exact getElem?_items q x

section Routes

open Selector

variable {levels : List Level} {tail : Path} {p last : Place}

/- A route walks by the numbers of its matches. -/
theorem reach?_of_leads
    {route : List (Crossing Place)}
    (hPlain : ∀ l ∈ levels, l.style = none)
    (hLeads : Leads levels p route last) :
    reach? tail levels (route.map Crossing.index) p.value =
      follow? tail last.value := by
  induction hLeads with
  | here => rfl
  | @cross level rest node found last i route hFound _ ih =>
      rw [List.forall_mem_cons] at hPlain
      have hItem := getElem?_spread hPlain.1 node i
      rw [hFound] at hItem
      rw [List.map_cons, reach?, ← ih hPlain.2]
      rcases Option.bind_eq_some_iff.mp hItem.symm with ⟨u, hScope, hOne⟩
      rw [hScope, Option.bind_some, hOne]
      rfl

/- Where numbers can be walked by, there is a route with them. -/
theorem exists_leads_of_reach?
    {xs : List Nat}
    {v : Json}
    (hPlain : ∀ l ∈ levels, l.style = none)
    (hReach : reach? tail levels xs p.value = some v) :
    ∃ route last, Leads levels p route last ∧
      route.map Crossing.index = xs := by
  induction levels generalizing xs p with
  | nil =>
      cases xs with
      | nil => exact ⟨[], p, .here, rfl⟩
      | cons x xs => cases hReach
  | cons level rest ih =>
      cases xs with
      | nil => cases hReach
      | cons x xs =>
          rw [List.forall_mem_cons] at hPlain
          rw [reach?, ← Option.bind_assoc, ← getElem?_spread hPlain.1]
            at hReach
          cases hFound : (spread level p).2[x]? with
          | none =>
              rw [hFound] at hReach
              cases hReach
          | some found =>
              rw [hFound] at hReach
              rcases ih hPlain.2 hReach with ⟨route, last, hLeads, rfl⟩
              exact ⟨_, last, .cross hFound hLeads, rfl⟩

end Routes

------------------------------------------------------------
-- Results
------------------------------------------------------------

section Results

open Selector

variable {s : Selector} {p : Place}

/- A tail without a list picks the value that its path leads to. -/
theorem pickTail_cases
    {tail : Tail}
    (hTail : tail.multi = none)
    (q : Position) :
    pickTail tail q p = [] ∧ follow? tail.path p.value = none ∨
      ∃ last, pickTail tail q p = [⟨.node last, q⟩] ∧
        follow? tail.path p.value = some last.value := by
  simp only [pickTail, hTail]
  rcases resolvePath_cases p tail.path with
    ⟨hNone, hFollow⟩ | ⟨last, hOne, hFollow⟩
  · exact .inl ⟨by rw [hNone]; rfl, hFollow⟩
  · exact .inr ⟨last, by rw [hOne]; rfl, hFollow⟩

/- No route leads to two results, and the routes have an order. -/
theorem pairwise_routed_of_multi_eq_none
    (hTail : s.tail.multi = none)
    (p : Place) :
    (routed p s).Pairwise fun a b => Precedes a.1 b.1 := by
  have hOne : ∀ q (node : Place),
      (pickTail s.tail q node).Pairwise fun _ _ => False := by
    intro q node
    rcases pickTail_cases (p := node) hTail q with
      ⟨hNone, _⟩ | ⟨last, hOne, _⟩
    · rw [hNone]
      exact .nil
    · rw [hOne]
      exact List.pairwise_singleton _ _
  apply (pairwise_routed p s hOne).imp
  rintro a b (⟨_, hTwo⟩ | hPrecedes)
  · exact hTwo.elim
  · exact hPrecedes

/- Every result is the value at the end of a walk. -/
theorem reach?_of_mem_routed
    (hPlain : ∀ l ∈ s.levels, l.style = none)
    (hTail : s.tail.multi = none)
    {route : List (Crossing Place)}
    {m : Match Place}
    (hFound : (route, m) ∈ routed p s) :
    ∃ q, m.hit = .node q ∧
      reach? s.tail.path s.levels (route.map Crossing.index) p.value =
        some q.value := by
  rcases mem_routed_iff.mp hFound with ⟨last, hLeads, hPicked⟩
  rw [reach?_of_leads hPlain hLeads]
  rcases pickTail_cases hTail (arrive .outside s.levels route) with
    ⟨hNone, _⟩ | ⟨q, hOne, hFollow⟩
  · rw [hNone] at hPicked
    cases hPicked
  · rw [hOne] at hPicked
    rw [List.mem_singleton.mp hPicked]
    exact ⟨q, rfl, hFollow⟩

/- Every walk ends at a result. -/
theorem exists_mem_routed_of_reach?
    (hPlain : ∀ l ∈ s.levels, l.style = none)
    (hTail : s.tail.multi = none)
    {xs : List Nat}
    {v : Json}
    (hReach : reach? s.tail.path s.levels xs p.value = some v) :
    ∃ route m, (route, m) ∈ routed p s ∧
      route.map Crossing.index = xs := by
  rcases exists_leads_of_reach? hPlain hReach with
    ⟨route, last, hLeads, rfl⟩
  rw [reach?_of_leads hPlain hLeads] at hReach
  rcases pickTail_cases hTail (arrive .outside s.levels route) with
    ⟨_, hNone⟩ | ⟨q, hOne, _⟩
  · rw [hNone] at hReach
    cases hReach
  · let m : Match Place := ⟨.node q, arrive .outside s.levels route⟩
    refine ⟨route, m, mem_routed_iff.mpr ⟨last, hLeads, ?_⟩, rfl⟩
    rw [hOne]
    exact List.mem_singleton.mpr rfl

/- The names of some slots, one for each level. -/
def levelNames (xs : List Nat) : List String :=
  xs.zipIdx.map fun (x, d) =>
    "level" ++ toString (d + 1) ++ "-" ++ toString x

/- The levels of a result are named by the numbers of its route. -/
theorem levels_of_mem_routed
    (hPlain : ∀ l ∈ s.levels, l.style = none)
    {route : List (Crossing Place)}
    {m : Match Place}
    (hFound : (route, m) ∈ routed p s) :
    m.position.levels = levelNames (route.map Crossing.index) := by
  rcases mem_routed_iff.mp hFound with ⟨last, hLeads, hPicked⟩
  rw [position_of_mem_pickTail hPicked, Position.levels,
    slots_arrive hLeads.length_eq, hLeads.map_slot_eq hPlain]
  rfl

end Results

/-
  Without style pairs and lists, an expression finds one value
  for each list of numbers that can be walked by, and nothing
  else: the value at the end of the walk, at the position that
  the numbers name, in the order of the numbers.
-/
theorem resolve_root
    (v : Json)
    (s : Selector)
    (hPlain : ∀ l ∈ s.levels, l.style = none)
    (hTail : s.tail.multi = none) :
    ∃ found : List (List Nat × Match Place),
      found.map Prod.snd = Selector.resolve (Place.root v) s ∧
      (found.Pairwise fun a b => a.1 < b.1) ∧
      (∀ xs, (∃ m, (xs, m) ∈ found) ↔
        (reach? s.tail.path s.levels xs v).isSome = true) ∧
      ∀ xs m, (xs, m) ∈ found →
        (∃ p, m.hit = .node p ∧
          reach? s.tail.path s.levels xs v = some p.value) ∧
        m.position.levels = levelNames xs := by
  refine ⟨(Selector.routed (Place.root v) s).map fun a =>
    (a.1.map Crossing.index, a.2), ?_, ?_, ?_, ?_⟩
  · rw [List.map_map]
    exact Selector.map_snd_routed (Place.root v) s
  · rw [List.pairwise_map]
    apply (pairwise_routed_of_multi_eq_none hTail (Place.root v)).imp
    exact fun hPrecedes => hPrecedes.indices_lt
  · intro xs
    rw [Option.isSome_iff_exists]
    constructor
    · rintro ⟨m, hm⟩
      rcases List.mem_map.mp hm with ⟨⟨route, _⟩, hFound, hSame⟩
      cases hSame
      rcases reach?_of_mem_routed hPlain hTail hFound with
        ⟨q, _, hReach⟩
      exact ⟨q.value, hReach⟩
    · rintro ⟨w, hReach⟩
      rcases exists_mem_routed_of_reach? (p := Place.root v) hPlain hTail
          hReach with
        ⟨route, m, hFound, rfl⟩
      exact ⟨m, List.mem_map.mpr ⟨_, hFound, rfl⟩⟩
  · intro xs m hm
    rcases List.mem_map.mp hm with ⟨⟨route, _⟩, hFound, hSame⟩
    cases hSame
    exact ⟨reach?_of_mem_routed hPlain hTail hFound,
      levels_of_mem_routed hPlain hFound⟩

/- Lists inside a list, one of them with a blank item. -/
def sampleLists : Json :=
  .object [("a", .array [
    .array [.null, .object [("b", .array [
      .text "x", .text " ", .text "y"])]],
    .array [.null, .object [("b", .text "z")]]])]

/- The levels `a` and `1|b`, and nothing behind them. -/
def sampleLevels : Selector :=
  ⟨"a;1|b^;", [⟨false, ["a"], none⟩, ⟨true, ["1", "b"], none⟩],
    ⟨[], none⟩⟩

/- A blank item is passed over, and has a number all the same. -/
theorem resolve_root_sample :
    (∀ l ∈ sampleLevels.levels, l.style = none) ∧
      sampleLevels.tail.multi = none ∧
      ∃ m ∈ Selector.resolve (Place.root sampleLists) sampleLevels,
        (∃ p, m.hit = .node p ∧ p.value = .text "y") ∧
        m.position.levels = ["level1-0", "level2-2"] := by
  have hPlain : ∀ l ∈ sampleLevels.levels, l.style = none := by
    decide
  have hReach :
      reach? sampleLevels.tail.path sampleLevels.levels [0, 2]
        sampleLists = some (.text "y") := by
    rfl
  rcases resolve_root sampleLists sampleLevels hPlain rfl with
    ⟨found, hAll, _, hWalks, hEach⟩
  rcases (hWalks [0, 2]).mpr (by rw [hReach]; rfl) with ⟨m, hm⟩
  rcases hEach [0, 2] m hm with ⟨⟨p, hHit, hValue⟩, hLevels⟩
  rw [hReach] at hValue
  refine ⟨hPlain, rfl, m, ?_, ⟨p, hHit, ?_⟩, ?_⟩
  · rw [← hAll]
    exact List.mem_map_of_mem hm
  · exact (Option.some.inj hValue).symm
  · rw [hLevels]
    decide

end Json

end Gleaner
