import Gleaner.Proofs.Decimal.Listed
import Gleaner.Proofs.Extraction.Candidates
import Gleaner.Proofs.Tree.Data

/-
  Prices are the numbers in what an expression finds, whatever the
  way in which it finds them.  One alternative finds the numbers
  that its path alone finds.  A list of numbers as a whole shows
  the numbers of its items only if they stay apart.

  Main declarations:
    * `Selector.ends`
    * `Selector.numbersBelow`
    * `Extract.price_eq_findSome?`
    * `Extract.price_one_alternative`
    * `Extract.price_array_iff`
-/

namespace Gleaner

open Cursor

------------------------------------------------------------
-- Numbers below the Ends of Routes
------------------------------------------------------------

namespace Selector

variable {N : Type}
variable [Cursor N]

/- The nodes where the routes across some levels end. -/
def ends (levels : List Level) (node : N) : List N :=
  (routes levels node).map (endOf node)

/-
  The numbers in what a tail finds below a node, by its path and
  then by each of its alternatives, if it has any.
-/
def numbersBelow (tail : Tail) (node : N) : List String :=
  let found := resolvePath [node] tail.path
  match tail.multi with
  | none => found.flatMap (Decimal.values ∘ rendered)
  | some alternatives =>
      found.flatMap fun n =>
        (alternatives.flatMap (resolvePath [n])).flatMap
          (Decimal.values ∘ rendered)

/- Routes end behind each node of their first level. -/
theorem ends_cons (level : Level) (rest : List Level) (node : N) :
    ends (level :: rest) node =
      (spread level node).2.flatMap (ends rest) := by
  have hNodes :
      (crossings level node).map Crossing.node =
        (spread level node).2 := by
    rw [crossings, List.map_map]
    exact List.zipIdx_map_fst 0 _
  rw [ends, routes, List.map_flatMap, ← hNodes, List.flatMap_map]
  congr 1
  funext c
  rw [List.map_map]
  rfl

/- A match without numbers adds no price. -/
theorem flatMap_priceOf_values
    (numbers : N → List String)
    (position : Position)
    (nodes : List N) :
    (nodes.filterMap fun n =>
      if (numbers n).isEmpty then none
      else some (⟨.values (numbers n), position⟩ : Match N)).flatMap
        Extract.priceOf =
      nodes.flatMap numbers := by
  induction nodes with
  | nil => rfl
  | cons n nodes ih =>
      rw [List.filterMap_cons, List.flatMap_cons, ← ih]
      by_cases hNone : (numbers n).isEmpty = true
      · rw [if_pos hNone, List.isEmpty_iff.mp hNone]
        rfl
      · rw [if_neg hNone]
        rfl

/- The prices of what a tail picks are the numbers that it finds. -/
theorem flatMap_priceOf_pickTail
    (tail : Tail)
    (position : Position)
    (node : N) :
    (pickTail tail position node).flatMap Extract.priceOf =
      numbersBelow tail node := by
  unfold pickTail numbersBelow
  cases tail.multi with
  | none =>
      dsimp only
      rw [List.flatMap_map]
      rfl
  | some alternatives => exact flatMap_priceOf_values _ position _

/- The prices of all matches, without their positions. -/
theorem flatMap_priceOf_resolve (root : N) (s : Selector) :
    (s.resolve root).flatMap Extract.priceOf =
      (ends s.levels root).flatMap (numbersBelow s.tail) := by
  rw [resolve, walk_eq_flatMap, List.flatMap_assoc, ends,
    List.flatMap_map]
  congr 1
  funext route
  exact flatMap_priceOf_pickTail s.tail _ _

end Selector

------------------------------------------------------------
-- Alternatives
------------------------------------------------------------

namespace Extract

open Selector

section Alternatives

variable {N : Type}
variable [Cursor N]

/- The first candidate with a number gives all its numbers. -/
theorem price_eq_findSome? (root : N) (candidates : List Selector) :
    price root candidates =
      candidates.findSome? fun s =>
        nonEmpty ((ends s.levels root).flatMap (numbersBelow s.tail)) := by
  unfold price firstUseful
  congr 1
  funext s
  rw [← flatMap_priceOf_resolve]
  cases s.resolve root with
  | nil => rfl
  | cons m found => rfl

/- A candidate on its own gives the numbers at the ends of its routes. -/
theorem price_singleton (root : N) (s : Selector) :
    price root [s] =
      nonEmpty ((ends s.levels root).flatMap (numbersBelow s.tail)) := by
  rw [price_eq_findSome?, List.findSome?_singleton]

/- One alternative finds the numbers that its path finds. -/
theorem numbersBelow_one_alternative (path : Path) (node : N) :
    numbersBelow ⟨[], some [path]⟩ node =
      numbersBelow ⟨path, none⟩ node := by
  unfold numbersBelow
  dsimp only
  cases hEmpty : isEmpty node with
  | true =>
      rw [resolvePath_of_isEmpty hEmpty, resolvePath_of_isEmpty hEmpty]
      rfl
  | false =>
      have hHere : resolvePath [node] [] = [node] := by
        simp [resolvePath_nil, hEmpty]
      rw [hHere, List.flatMap_singleton, List.flatMap_singleton]

/-
  One alternative behind some levels gives the prices that its path
  gives there, among any other candidates.
-/
theorem price_one_alternative
    (root : N)
    (before after : List Selector)
    (levels : List Level)
    (path : Path)
    (bracketed plain : String) :
    price root
        (before ++ ⟨bracketed, levels, ⟨[], some [path]⟩⟩ :: after) =
      price root
        (before ++ ⟨plain, levels, ⟨path, none⟩⟩ :: after) := by
  have hNumbers :
      numbersBelow (N := N) ⟨[], some [path]⟩ =
        numbersBelow ⟨path, none⟩ := by
    funext node
    exact numbersBelow_one_alternative path node
  simp only [price_eq_findSome?, List.findSome?_append,
    List.findSome?_cons, hNumbers]

end Alternatives

------------------------------------------------------------
-- Numbers in Lists
------------------------------------------------------------

section Lists

open Text (showNat)
open Decimal (listEnd ApartInList)
open Json (Place descend?)

variable {p : Place}

/- What holds no angle bracket is shown as it is. -/
theorem rendered_eq_text
    (hBracket : '<' ∉ (text p).toList) :
    rendered p = text p := by
  show Markup.renderedText (text p) = text p
  rw [Markup.renderedText, if_neg]
  rw [Markup.looksLikeMarkup, Bool.and_eq_true, List.contains_iff_mem]
  exact fun hBoth => hBracket hBoth.1

/- A list of numbers is shown in brackets, with commas. -/
theorem toList_rendered_array
    {n : Nat}
    {ns : List Nat}
    (hValue : p.value = .array ((n :: ns).map Json.ofNat)) :
    (rendered p).toList = '[' :: (showNat n ++ listEnd ns) := by
  have hText : (text p).toList = '[' :: (showNat n ++ listEnd ns) := by
    show (Place.text p).toList = _
    rw [Place.text, hValue]
    simp [Json.compact, Json.render, Json.ofNat, Json.Number.render,
      listEnd]
  rw [rendered_eq_text, hText]
  rw [hText, List.mem_cons, List.mem_append]
  rintro (hStart | hNumber | hRest)
  · exact absurd hStart (by decide)
  · exact absurd (Text.isDigit_of_mem_showNat hNumber) (by decide)
  · rcases Decimal.mem_listEnd hRest with hDigit | hComma | hEnd
    · exact absurd hDigit (by decide)
    · exact absurd hComma (by decide)
    · exact absurd hEnd (by decide)

/- The numbers in a list as a whole are those of its text. -/
theorem values_rendered_array
    {n : Nat}
    {ns : List Nat}
    (hValue : p.value = .array ((n :: ns).map Json.ofNat)) :
    Decimal.values (rendered p) =
      (Decimal.valuesOf (showNat n ++ listEnd ns)).map String.ofList := by
  have hBracket : Text.isDecimalDigit '[' = false := by decide
  rw [Decimal.values, toList_rendered_array hValue,
    Decimal.valuesOf_cons_of_not_digit hBracket]

/- A positive number on its own is its own price. -/
theorem values_rendered_number
    {n : Nat}
    (hPositive : 0 < n)
    (hValue : p.value = Json.ofNat n) :
    Decimal.values (rendered p) = [toString n] := by
  have hText : text p = String.ofList (showNat n) := by
    show Place.text p = _
    rw [Place.text, hValue]
    rfl
  have hBracket : '<' ∉ (text p).toList := by
    rw [hText, String.toList_ofList]
    intro hIn
    exact absurd (Text.isDigit_of_mem_showNat hIn) (by decide)
  rw [rendered_eq_text hBracket, hText, Decimal.values,
    String.toList_ofList, Decimal.valuesOf_showNat hPositive]
  rfl

/- Positive numbers are found one by one. -/
theorem flatMap_numbersBelow_numbers
    {places : List Place}
    {ns : List Nat}
    (hPositive : ∀ n ∈ ns, 0 < n)
    (hValues : places.map Place.value = ns.map Json.ofNat) :
    places.flatMap (numbersBelow ⟨[], none⟩) = ns.map toString := by
  induction ns generalizing places with
  | nil =>
      rw [List.map_eq_nil_iff.mp hValues]
      rfl
  | cons n ns ih =>
      rw [List.map_cons, List.map_eq_cons_iff] at hValues
      rcases hValues with ⟨q, rest, rfl, hValue, hRest⟩
      rw [List.forall_mem_cons] at hPositive
      have hFilled : isEmpty q = false := by
        apply Json.isEmpty_place_eq_false
        rw [hValue]
        exact id
      have hHere : resolvePath [q] [] = [q] := by
        simp [resolvePath_nil, hFilled]
      rw [List.flatMap_cons, ih hPositive.2 hRest, numbersBelow, hHere]
      dsimp only
      rw [List.flatMap_singleton, Function.comp_apply,
        values_rendered_number hPositive.1 hValue]
      rfl

/- The prices of the value that a path leads to. -/
theorem price_path (v : Json) (path : Path) (source : String) :
    price (Place.root v) [⟨source, [], ⟨path, none⟩⟩] =
      nonEmpty ((resolvePath [Place.root v] path).flatMap
        (Decimal.values ∘ rendered)) := by
  have hEnds : ends [] (Place.root v) = [Place.root v] := rfl
  rw [price_singleton, hEnds, List.flatMap_singleton]
  rfl

/- The prices of the items of the value that a path leads to. -/
theorem price_level (v : Json) (path : Path) (source : String) :
    price (Place.root v)
        [⟨source, [⟨false, path, none⟩], ⟨[], none⟩⟩] =
      nonEmpty (((resolvePath [Place.root v] path).flatMap
        Place.items).flatMap (numbersBelow ⟨[], none⟩)) := by
  have hEnds :
      ends [⟨false, path, none⟩] (Place.root v) =
        (resolvePath [Place.root v] path).flatMap Place.items := by
    rw [ends_cons]
    exact List.flatMap_singleton' _
  rw [price_singleton, hEnds]

/-
  The items of a list of positive numbers are found one by one, each
  as a price of its own.  The list as a whole gives the same prices
  exactly if no number below a thousand stands in front of one of
  three digits or more.
-/
theorem price_array_iff
    {v : Json}
    {path : Path}
    {ns : List Nat}
    (hPositive : ∀ n ∈ ns, 0 < n)
    (hReach : descend? path v = some (.array (ns.map Json.ofNat)))
    (whole each : String) :
    price (Place.root v)
        [⟨each, [⟨false, path, none⟩], ⟨[], none⟩⟩] =
      nonEmpty (ns.map toString) ∧
    (price (Place.root v) [⟨whole, [], ⟨path, none⟩⟩] =
        price (Place.root v)
          [⟨each, [⟨false, path, none⟩], ⟨[], none⟩⟩] ↔
      ns.IsChain ApartInList) := by
  have hFollow := Json.follow?_of_descend? hReach
  have hRoot : (Place.root v).value = v := rfl
  have hCases := Json.resolvePath_cases (Place.root v) path
  rw [hRoot, hFollow] at hCases
  rw [price_path, price_level]
  cases ns with
  | nil =>
      -- an empty list is passed over
      simp only [List.map_nil, Json.IsHollow, if_true, reduceCtorEq,
        and_false, exists_false, or_false, and_true] at hCases
      rw [hCases]
      exact ⟨rfl, iff_of_true rfl .nil⟩
  | cons n ns =>
      simp only [List.map_cons, Json.IsHollow, List.cons_ne_nil, if_false,
        reduceCtorEq, and_false, false_or, Option.some.injEq] at hCases
      rcases hCases with ⟨q, hOne, hValue⟩
      have hItems :
          q.items.map Place.value = (n :: ns).map Json.ofNat := by
        rw [Place.items, ← hValue]
        simp [Function.comp_def]
      have hShow :
          (n :: ns).map toString =
            ((n :: ns).map showNat).map String.ofList := by
        rw [List.map_map]
        rfl
      rw [hOne, List.flatMap_singleton, List.flatMap_singleton,
        flatMap_numbersBelow_numbers hPositive hItems]
      refine ⟨rfl, ?_⟩
      rw [nonEmpty_inj, Function.comp_apply,
        values_rendered_array hValue.symm, hShow,
        List.map_inj_right (fun _ _ => String.ofList_injective)]
      exact Decimal.valuesOf_listed_iff hPositive

/- Prices in a list, and no two of them are read as one. -/
def listedPrices : Json :=
  .object [("p", .array ([1500, 234, 99].map Json.ofNat))]

/- Large numbers and small ones stay apart. -/
theorem price_array_iff_sample :
    descend? ["p"] listedPrices =
        some (.array ([1500, 234, 99].map Json.ofNat)) ∧
      [1500, 234, 99].IsChain ApartInList ∧
      price (Place.root listedPrices) [⟨"p", [], ⟨["p"], none⟩⟩] =
        some ["1500", "234", "99"] := by
  have hReach : descend? ["p"] listedPrices =
      some (.array ([1500, 234, 99].map Json.ofNat)) :=
    rfl
  have hApart : [1500, 234, 99].IsChain ApartInList := by decide
  have hPrices := price_array_iff (by decide) hReach "p" "p;"
  refine ⟨hReach, hApart, ?_⟩
  rw [hPrices.2.mpr hApart, hPrices.1]
  rfl

/- Prices in a list, and the comma between them is read as part of one. -/
def joinedPrices : Json :=
  .object [("p", .array ([1, 234].map Json.ofNat))]

/- A small number and the three digits behind it become one price. -/
theorem comma_joins_prices :
    descend? ["p"] joinedPrices =
        some (.array ([1, 234].map Json.ofNat)) ∧
      price (Place.root joinedPrices) [⟨"p", [], ⟨["p"], none⟩⟩] =
        some ["1234"] ∧
      price (Place.root joinedPrices)
          [⟨"p;", [⟨false, ["p"], none⟩], ⟨[], none⟩⟩] =
        some ["1", "234"] := by
  refine ⟨rfl, ?_, ?_⟩
  · decide +kernel
  · decide +kernel

end Lists

end Extract

end Gleaner
