import Mathlib.Data.List.Forall2

/-
  Lists that are read item by item: when reading succeeds, what
  it yields, and with which item it fails.

  Main declarations:
    * `exists_bind_eq_ok_iff`
    * `exists_mapM_eq_ok_iff`
    * `forall₂_of_mapM_eq_ok`
    * `exists_of_mem_mapM`
    * `mapM_eq_error_iff`
-/

namespace Gleaner

variable {α β ε : Type}

------------------------------------------------------------
-- Success
------------------------------------------------------------

/- Two steps succeed if the first does, and then the second. -/
theorem exists_bind_eq_ok_iff
    {x : Except ε α}
    {f : α → Except ε β} :
    (∃ b, (x >>= f) = .ok b) ↔
      ∃ a, x = .ok a ∧ ∃ b, f a = .ok b := by
  cases x with
  | error e => simp [bind, Except.bind]
  | ok a => simp [bind, Except.bind]

/- A list is read if each of its items is. -/
theorem exists_mapM_eq_ok_iff
    {read : α → Except ε β}
    {items : List α} :
    (∃ found, items.mapM read = .ok found) ↔
      ∀ a ∈ items, ∃ b, read a = .ok b := by
  induction items with
  | nil =>
      simp only [List.not_mem_nil, false_imp_iff, implies_true, iff_true]
      exact ⟨[], rfl⟩
  | cons a items ih =>
      rw [List.mapM_cons, exists_bind_eq_ok_iff, List.forall_mem_cons,
        ← ih]
      constructor
      · rintro ⟨b, hFirst, hRest⟩
        rcases exists_bind_eq_ok_iff.mp hRest with ⟨bs, hItems, _⟩
        exact ⟨⟨b, hFirst⟩, bs, hItems⟩
      · rintro ⟨⟨b, hFirst⟩, bs, hItems⟩
        exact ⟨b, hFirst,
          exists_bind_eq_ok_iff.mpr ⟨bs, hItems, _, rfl⟩⟩

/- Reading a list reads its items one by one. -/
theorem forall₂_of_mapM_eq_ok
    {read : α → Except ε β}
    {items : List α}
    {found : List β}
    (hRead : items.mapM read = .ok found) :
    List.Forall₂ (fun a b => read a = .ok b) items found := by
  induction items generalizing found with
  | nil =>
      cases hRead
      exact .nil
  | cons a items ih =>
      rw [List.mapM_cons] at hRead
      cases hFirst : read a with
      | error e =>
          rw [hFirst] at hRead
          cases hRead
      | ok b =>
          cases hRest : items.mapM read with
          | error e =>
              rw [hFirst, hRest] at hRead
              cases hRead
          | ok bs =>
              rw [hFirst, hRest] at hRead
              cases hRead
              exact .cons hFirst (ih hRest)

/- Each item of a list that was read was read from an item. -/
theorem exists_of_mem_mapM
    {read : α → Except ε β}
    {items : List α}
    {found : List β}
    (hRead : items.mapM read = .ok found)
    {b : β}
    (hb : b ∈ found) :
    ∃ a ∈ items, read a = .ok b := by
  have hEach := forall₂_of_mapM_eq_ok hRead
  clear hRead
  induction hEach with
  | nil => cases hb
  | cons hOne _ ih =>
      rcases List.mem_cons.mp hb with rfl | hRest
      · exact ⟨_, List.mem_cons_self, hOne⟩
      · rcases ih hRest with ⟨a, ha, hSame⟩
        exact ⟨a, List.mem_cons_of_mem _ ha, hSame⟩

/- Items that are read back one by one are read back as a list. -/
theorem mapM_map_eq_ok
    {read : α → Except ε β}
    {write : β → α}
    {items : List β}
    (hRead : ∀ b ∈ items, read (write b) = .ok b) :
    (items.map write).mapM read = .ok items := by
  induction items with
  | nil => rfl
  | cons b items ih =>
      have hRest := ih fun c hc => hRead c (List.mem_cons_of_mem _ hc)
      rw [List.map_cons, List.mapM_cons, hRest,
        hRead b List.mem_cons_self]
      rfl

------------------------------------------------------------
-- Failure
------------------------------------------------------------

/- Two steps fail if the first does, or if the second does after it. -/
theorem bind_eq_error_iff
    {x : Except ε α}
    {f : α → Except ε β}
    {e : ε} :
    (x >>= f) = .error e ↔
      x = .error e ∨ ∃ a, x = .ok a ∧ f a = .error e := by
  cases x with
  | error e' => simp [bind, Except.bind]
  | ok a => simp [bind, Except.bind]

/- A list fails with the first of its items that does. -/
theorem mapM_eq_error_iff
    {read : α → Except ε β}
    {items : List α}
    {e : ε} :
    items.mapM read = .error e ↔
      ∃ early a late, items = early ++ a :: late ∧
        (∀ other ∈ early, ∃ b, read other = .ok b) ∧
        read a = .error e := by
  induction items with
  | nil => simp [pure, Except.pure]
  | cons a items ih =>
      rw [List.mapM_cons, bind_eq_error_iff]
      constructor
      · rintro (hFirst | ⟨b, hFirst, hRest⟩)
        · exact ⟨[], a, items, rfl, by simp, hFirst⟩
        · rcases bind_eq_error_iff.mp hRest with
            hItems | ⟨_, _, hDone⟩
          · rcases ih.mp hItems with
              ⟨early, c, late, rfl, hEarly, hFails⟩
            refine ⟨a :: early, c, late, rfl, ?_, hFails⟩
            rw [List.forall_mem_cons]
            exact ⟨⟨b, hFirst⟩, hEarly⟩
          · cases hDone
      · rintro ⟨early, c, late, hSame, hEarly, hFails⟩
        cases early with
        | nil =>
            cases hSame
            exact .inl hFails
        | cons a' early =>
            cases hSame
            rcases hEarly a List.mem_cons_self with ⟨b, hFirst⟩
            have hItems := ih.mpr ⟨early, c, late, rfl,
              fun other hOther =>
                hEarly other (List.mem_cons_of_mem _ hOther), hFails⟩
            exact .inr ⟨b, hFirst,
              bind_eq_error_iff.mpr (.inl hItems)⟩

end Gleaner
