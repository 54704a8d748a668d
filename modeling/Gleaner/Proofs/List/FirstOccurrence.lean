import Mathlib.Data.List.Nodup

/-
  Lists without their repetitions.  Every item is kept where it
  occurs first.

  Main declarations:
    * `idxOf_lt_of_filter`
    * `pairwise_idxOf_eraseDups`
    * `nodup_eraseDups`
-/

namespace Gleaner

variable {α : Type}
variable [BEq α]
variable [LawfulBEq α]

/- Items that are left out do not change which of two occurs first. -/
theorem idxOf_lt_of_filter
    {p : α → Bool}
    {items : List α}
    {a b : α}
    (ha : p a = true)
    (hb : p b = true)
    (hLess : (items.filter p).idxOf a < (items.filter p).idxOf b) :
    items.idxOf a < items.idxOf b := by
  induction items with
  | nil => exact absurd hLess (Nat.lt_irrefl _)
  | cons c items ih =>
      by_cases hac : c = a
      · subst hac
        have hbc : c ≠ b := by
          rintro rfl
          exact absurd hLess (Nat.lt_irrefl _)
        rw [List.idxOf_cons_self, List.idxOf_cons_ne _ hbc]
        exact Nat.succ_pos _
      · by_cases hbc : c = b
        · subst hbc
          rw [List.filter_cons_of_pos hb, List.idxOf_cons_self] at hLess
          exact absurd hLess (Nat.not_lt_zero _)
        · rw [List.idxOf_cons_ne _ hac, List.idxOf_cons_ne _ hbc]
          apply Nat.succ_lt_succ
          apply ih
          by_cases hc : p c = true
          · rw [List.filter_cons_of_pos hc, List.idxOf_cons_ne _ hac,
              List.idxOf_cons_ne _ hbc] at hLess
            exact Nat.lt_of_succ_lt_succ hLess
          · rwa [List.filter_cons_of_neg hc] at hLess

/- Items that are kept once come in the order of first occurrence. -/
theorem pairwise_idxOf_eraseDups (items : List α) :
    items.eraseDups.Pairwise fun a b =>
      items.idxOf a < items.idxOf b := by
  induction hLength : items.length using Nat.strongRecOn
    generalizing items with
  | _ length ih =>
      cases items with
      | nil => exact .nil
      | cons a items =>
          have hShorter :
              (items.filter fun b => !b == a).length < length := by
            rw [← hLength, List.length_cons, Nat.lt_succ_iff]
            exact List.length_filter_le _ items
          have hOther :
              ∀ b ∈ (items.filter fun b => !b == a).eraseDups,
                (!b == a) = true := by
            intro b hb
            exact (List.mem_filter.mp (List.mem_eraseDups.mp hb)).2
          have hLater :
              ∀ b ∈ (items.filter fun b => !b == a).eraseDups,
                (a :: items).idxOf b = items.idxOf b + 1 := by
            intro b hb
            apply List.idxOf_cons_ne
            rintro rfl
            exact absurd (hOther a hb) (by simp)
          rw [List.eraseDups_cons, List.pairwise_cons]
          constructor
          · intro b hb
            rw [List.idxOf_cons_self, hLater b hb]
            exact Nat.succ_pos _
          · apply (ih _ hShorter _ rfl).imp_of_mem
            intro b c hb hc hLess
            rw [hLater b hb, hLater c hc]
            exact Nat.succ_lt_succ
              (idxOf_lt_of_filter (hOther b hb) (hOther c hc) hLess)

/- Items that are kept once are different from each other. -/
theorem nodup_eraseDups (items : List α) :
    items.eraseDups.Nodup := by
  apply (pairwise_idxOf_eraseDups items).imp
  rintro a b hLess rfl
  exact absurd hLess (Nat.lt_irrefl _)

end Gleaner
