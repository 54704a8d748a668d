import Gleaner.Proofs.Decimal.Form
import Gleaner.Proofs.Decimal.Seam
import Gleaner.Proofs.Selector.Route
import Gleaner.Selector.Parse
import Gleaner.Tree.Data

/-
  Decimals that are read again.  A strict decimal is the only number
  in its own text, so reading the decimals of a text once more gives
  them all back, also those that an expression has found as numbers.

  Main declarations:
    * `Decimal.valuesOf_eq_singleton`
    * `Decimal.values_eq_singleton_iff`
    * `Decimal.flatMap_values_eq_self`
    * `Selector.exists_text_of_mem_values`
    * `Decimal.values_read_again`
-/

namespace Gleaner

------------------------------------------------------------
-- Strict Decimals as Texts
------------------------------------------------------------

namespace Decimal

open Text (isDecimalDigit isDigit)

/- There is no comma in cents. -/
theorem IsCents.filter_eq_self
    {fraction : List Char}
    (hCents : IsCents isDecimalDigit fraction) :
    fraction.filter (· != ',') = fraction := by
  rcases hCents with rfl | ⟨cents, rfl, _, hDigits⟩
  · rfl
  · rw [List.filter_cons_of_pos (by decide), filter_eq_self_of_allDigits hDigits]

/- A strict decimal is the only one in its text. -/
theorem valuesOf_eq_singleton
    {cs : List Char}
    (hPrice : IsPrice isDecimalDigit cs) :
    valuesOf cs = [cs] := by
  have hStrict := isStrict_iff.mpr hPrice
  rcases hPrice with
    ⟨first, digits, fraction, rfl, hLow, hHigh, hDigits, hCents⟩
  have hFirst : isDecimalDigit first = true := by
    apply isDecimalDigit_of_isDigit
    simp only [isDigit, Bool.and_eq_true, decide_eq_true_eq]
    omega
  have hLead : AllDigits (first :: digits) :=
    List.forall_mem_cons.mpr ⟨hFirst, hDigits⟩
  have hTake := takeNumber?_of_isFraction (List.cons_ne_nil _ _) hLead
    hCents.isFraction
  have hNoComma :
      (first :: digits ++ fraction).filter (· != ',') =
        first :: digits ++ fraction := by
    rw [List.filter_append, filter_eq_self_of_allDigits hLead,
      hCents.filter_eq_self]
  rw [List.cons_append] at hTake hNoComma
  rw [← hNoComma] at hStrict
  rw [valuesOf_eq_cons hTake hStrict, hNoComma, valuesOf_nil]

/- The texts that are read as themselves are the strict decimals. -/
theorem values_eq_singleton_iff {v : String} :
    values v = [v] ↔ IsPrice isDecimalDigit v.toList := by
  constructor
  · intro hAgain
    have hMem : v ∈ values v := by
      rw [hAgain]
      exact List.mem_singleton_self v
    exact (of_mem_values hMem).1
  · intro hPrice
    rw [values, valuesOf_eq_singleton hPrice, List.map_singleton,
      String.ofList_toList]

/- A decimal of a text is the only one in its own text. -/
theorem values_of_mem_values
    {s v : String}
    (hValue : v ∈ values s) :
    values v = [v] :=
  values_eq_singleton_iff.mpr (of_mem_values hValue).1

/- Texts that are read as themselves are read as they are. -/
theorem flatMap_values_eq_self
    {vs : List String}
    (hAgain : ∀ v ∈ vs, values v = [v]) :
    vs.flatMap values = vs :=
  calc
    vs.flatMap values = vs.flatMap fun v => [v] :=
      List.flatMap_congr hAgain
    _ = vs := List.flatMap_singleton' vs

end Decimal

------------------------------------------------------------
-- Numbers That Were Found
------------------------------------------------------------

/- The numbers of a match are decimals of some text. -/
theorem Selector.exists_text_of_mem_values
    {N : Type}
    [Cursor N]
    {root : N}
    {s : Selector}
    {m : Match N}
    {vs : List String}
    (hFound : m ∈ s.resolve root)
    (hHit : m.hit = .values vs)
    {v : String}
    (hv : v ∈ vs) :
    ∃ text, v ∈ Decimal.values text := by
  rw [resolve, walk_eq_flatMap] at hFound
  rcases List.mem_flatMap.mp hFound with ⟨route, _, hPicked⟩
  rcases exists_of_mem_pickTail hPicked with
    ⟨n, _, rfl⟩ | ⟨texts, _, rfl⟩
  · cases hHit
  · cases hHit
    rcases List.mem_flatMap.mp hv with ⟨text, _, hValue⟩
    exact ⟨text, hValue⟩

namespace Decimal

open Text (isDecimalDigit)

/-
  Every decimal of a text is the only decimal in its own text, and
  so the decimals of a text read again are the same ones.  The texts
  that are read as themselves are exactly the strict decimals.  What
  an expression finds as numbers, in any kind of document, is read
  again as the same numbers.
-/
theorem values_read_again :
    (∀ text, ∀ v ∈ values text, values v = [v]) ∧
    (∀ text, (values text).flatMap values = values text) ∧
    (∀ v, values v = [v] ↔ IsPrice isDecimalDigit v.toList) ∧
    ∀ {N : Type} [Cursor N] (root : N) (s : Selector),
      ∀ m ∈ s.resolve root, ∀ vs, m.hit = .values vs →
        (∀ v ∈ vs, values v = [v]) ∧ vs.flatMap values = vs := by
  have hText : ∀ text, ∀ v ∈ values text, values v = [v] :=
    fun _ _ => values_of_mem_values
  refine ⟨hText, fun text => flatMap_values_eq_self (hText text),
    fun _ => values_eq_singleton_iff, ?_⟩
  intro N _ root s m hFound vs hHit
  have hAgain : ∀ v ∈ vs, values v = [v] := by
    intro v hv
    rcases Selector.exists_text_of_mem_values hFound hHit hv with
      ⟨text, hValue⟩
    exact values_of_mem_values hValue
  exact ⟨hAgain, flatMap_values_eq_self hAgain⟩

/- An offer with two prices in a text, and one with a leading zero. -/
def pricedOffer : Json :=
  .object [("items", .array [.object
    [("price", .text "19.99 or 1,299"), ("old", .text "05")]])]

/- The prices and the old prices of each item. -/
def itemPrices : Selector :=
  ⟨"items;(price,old)", [⟨false, ["items"], none⟩],
    ⟨[], some [["price"], ["old"]]⟩⟩

/- Without its comma a price is read once more as the same number. -/
theorem values_read_again_sample :
    values "NT$1,299.50 (was 05)" = ["1299.50"] ∧
    values "1299.50" = ["1299.50"] ∧
    Selector.parse "items;(price,old)" = .ok itemPrices ∧
    ∃ m ∈ itemPrices.resolve (Json.Place.root pricedOffer),
      m.hit = .values ["19.99", "1299"] ∧
      ["19.99", "1299"].flatMap values = ["19.99", "1299"] := by
  rcases values_read_again with ⟨hText, _, _, hFound⟩
  have hPrice : values "NT$1,299.50 (was 05)" = ["1299.50"] := by
    decide +kernel
  have hAgain := hText "NT$1,299.50 (was 05)" "1299.50" (by simp [hPrice])
  have hHit :
      (itemPrices.resolve (Json.Place.root pricedOffer)).any (fun m =>
        match m.hit with
        | .values vs => vs == ["19.99", "1299"]
        | .node _ => false) = true := by
    decide +kernel
  refine ⟨hPrice, hAgain, by decide +kernel, ?_⟩
  rcases List.any_eq_true.mp hHit with ⟨m, hm, hNumbers⟩
  split at hNumbers
  · rename_i vs hValues
    rw [beq_iff_eq.mp hNumbers] at hValues
    exact ⟨m, hm, hValues, (hFound _ _ m hm _ hValues).2⟩
  · cases hNumbers

end Decimal

end Gleaner
