import Gleaner.Harvest.Store

/-
  The parts of a store: what is stored under a digest is all
  that loading looks at, and all that saving touches.

  Main declarations:
    * `Store.under`
    * `Store.under_save_self`
    * `Store.under_save_of_ne`
    * `Store.load_under`
    * `Store.mem_hashes_save`
-/

namespace Gleaner

namespace Store

/- What is stored under a digest, in the order of the rows. -/
def under (s : Store) (hash : String) : Store where
  products := s.products.filter (·.hash == hash)
  traits := s.traits.filter (·.1 == hash)
  offers := s.offers.filter (·.1 == hash)

------------------------------------------------------------
-- Rows of One Table
------------------------------------------------------------

/- The rows under a digest are replaced by the new ones. -/
theorem filter_replace_self
    (hash : String)
    (new : List α)
    (rows : List (String × α)) :
    (replace hash new rows).filter (·.1 == hash) =
      new.map fun row => (hash, row) := by
  have hOld :
      ∀ row ∈ rows.filter (·.1 != hash),
        ¬ (row.1 == hash) = true := by
    intro row hRow
    simpa using (List.mem_filter.mp hRow).2
  have hNew :
      ∀ row ∈ new.map fun row => (hash, row),
        (row.1 == hash) = true := by
    intro row hRow
    rcases List.mem_map.mp hRow with ⟨a, _, rfl⟩
    exact beq_self_eq_true hash
  rw [replace, List.filter_append, List.filter_eq_nil_iff.mpr hOld,
    List.filter_eq_self.mpr hNew, List.nil_append]

/- The rows under other digests stay. -/
theorem filter_replace_of_ne
    {hash other : String}
    (hOther : other ≠ hash)
    (new : List α)
    (rows : List (String × α)) :
    (replace other new rows).filter (·.1 == hash) =
      rows.filter (·.1 == hash) := by
  have hNew :
      ∀ row ∈ new.map fun row => (other, row),
        ¬ (row.1 == hash) = true := by
    intro row hRow
    rcases List.mem_map.mp hRow with ⟨a, _, rfl⟩
    simpa using hOther
  rw [replace, List.filter_append, List.filter_eq_nil_iff.mpr hNew,
    List.append_nil, List.filter_filter]
  apply List.filter_congr
  intro row _
  by_cases hRow : row.1 = hash
  · simp [hRow, hOther.symm]
  · simp [hRow]

------------------------------------------------------------
-- Saving
------------------------------------------------------------

/- A record is all that is stored under its digest. -/
theorem under_save_self
    (s : Store)
    (r : Record) :
    (s.save r).under r.pageHash = empty.save r := by
  have hOld :
      ∀ p ∈ s.products.filter (·.hash != r.pageHash),
        ¬ (p.hash == r.pageHash) = true := by
    intro p hp
    simpa using (List.mem_filter.mp hp).2
  simp only [under, save, empty, filter_replace_self,
    List.filter_append, List.filter_eq_nil_iff.mpr hOld]
  simp [Product.ofRecord, replace]

/- What is stored under other digests stays. -/
theorem under_save_of_ne
    {s : Store}
    {r : Record}
    {hash : String}
    (hOther : r.pageHash ≠ hash) :
    (s.save r).under hash = s.under hash := by
  have hNew :
      [Product.ofRecord r].filter (·.hash == hash) = [] := by
    simpa [Product.ofRecord] using hOther
  simp only [under, save, filter_replace_of_ne hOther,
    List.filter_append, hNew, List.append_nil, List.filter_filter]
  congr 1
  apply List.filter_congr
  intro p _
  by_cases hp : p.hash = hash
  · simp [hp, hOther.symm]
  · simp [hp]

/- The digests of stored pages grow by that of the record. -/
theorem mem_hashes_save
    {s : Store}
    {r : Record}
    {hash : String} :
    hash ∈ (s.save r).hashes ↔
      hash = r.pageHash ∨ hash ∈ s.hashes := by
  simp only [hashes, save, List.map_append, List.mem_append,
    List.mem_map, List.mem_filter, bne_iff_ne, List.map_cons,
    List.map_nil, List.mem_singleton]
  constructor
  · rintro (⟨p, ⟨hp, _⟩, rfl⟩ | rfl)
    · exact .inr ⟨p, hp, rfl⟩
    · exact .inl rfl
  · rintro (rfl | ⟨p, hp, rfl⟩)
    · exact .inr rfl
    · by_cases hSame : p.hash = r.pageHash
      · exact .inr hSame
      · exact .inl ⟨p, ⟨hp, hSame⟩, rfl⟩

------------------------------------------------------------
-- Loading
------------------------------------------------------------

/- Loading looks only at what is stored under the digest. -/
theorem load_under
    (s : Store)
    (hash : String) :
    (s.under hash).load hash = s.load hash := by
  simp only [load, under, rowsUnder, List.find?_filter,
    List.filter_filter, and_self, Bool.and_self,
    Bool.decide_eq_true]

/- What is stored under a digest decides what is loaded. -/
theorem load_congr
    {s t : Store}
    {hash : String}
    (hUnder : s.under hash = t.under hash) :
    s.load hash = t.load hash := by
  rw [← load_under s, hUnder, load_under t]

/- Nothing is loaded under a digest that is not stored. -/
theorem load_of_not_mem
    {s : Store}
    {hash : String}
    (hNone : hash ∉ s.hashes) :
    s.load hash = .ok none := by
  have hNowhere : s.products.find? (·.hash == hash) = none := by
    rw [List.find?_eq_none]
    intro p hp hSame
    exact hNone (List.mem_map.mpr ⟨p, hp, beq_iff_eq.mp hSame⟩)
  rw [load, hNowhere]

------------------------------------------------------------
-- Dates
------------------------------------------------------------

/- The store without the moments of reading. -/
def undated (s : Store) : Store :=
  { s with
    products := s.products.map fun p => { p with extractedAt := "" } }

end Store

end Gleaner
