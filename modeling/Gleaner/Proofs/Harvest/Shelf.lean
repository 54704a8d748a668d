import Gleaner.Proofs.Product.MediaName
import Mathlib.Data.List.Nodup

/-
  Deliveries that overlap: the file of a medium is looked for
  at one moment and put in at a later one, while other files
  come in between.

  Main declarations:
    * `Shelf.Within`
    * `Shelf.deliverSince`
    * `Shelf.finds_of_isPlain`
    * `Shelf.Grown`
    * `Shelf.Grown.replace`
    * `Shelf.Grown.deliverSince`
-/

namespace Gleaner

namespace Shelf

------------------------------------------------------------
-- Overlapping Deliveries
------------------------------------------------------------

/- All files that are on one shelf are on the other. -/
def Within (s t : Shelf) : Prop :=
  ∀ name, (s.get? name).isSome → (t.get? name).isSome

/-
  Fetch a medium and put it in, unless its file was there when
  it was looked for.  What came there since is written over.
-/
def deliverSince {E : Type}
    (sys : System)
    (s : Shelf)
    (seen : Shelf)
    (fetch : String → Except E (List UInt8))
    (medium : MediaFile) : Delivery E × Shelf :=
  if seen.finds sys medium.name then (.present, s)
  else
    match fetch medium.url with
    | .error e => (.unfetched e, s)
    | .ok bytes => receive sys s medium.name bytes

/- A plain name finds the file of that name. -/
theorem finds_of_isPlain
    {sys : System}
    {s : Shelf}
    {name : String}
    (hPlain : isPlain name = true) :
    s.finds sys name = (s.get? name).isSome := by
  rw [finds, sys.place_of_isPlain _ _ hPlain, has]

/- A file can be found under the names of the rows. -/
theorem isSome_get?_iff
    {s : Shelf}
    {name : String} :
    (s.get? name).isSome ↔ name ∈ s.files.map (·.1) := by
  rw [get?, List.lookup_isSome_iff, List.mem_map]
  constructor
  · rintro ⟨f, hf, hName⟩
    exact ⟨f, hf, (beq_iff_eq.mp hName).symm⟩
  · rintro ⟨f, hf, hName⟩
    exact ⟨f, hf, beq_iff_eq.mpr hName.symm⟩

/- No file can be found under other names. -/
theorem get?_eq_none_iff
    {s : Shelf}
    {name : String} :
    s.get? name = none ↔ name ∉ s.files.map (·.1) := by
  rw [← isSome_get?_iff, Option.not_isSome_iff_eq_none]

/- Rows of a name that is not there need not be taken away. -/
theorem filter_eq_self_of_get?_eq_none
    {s : Shelf}
    {name : String}
    (hNone : s.get? name = none) :
    s.files.filter (·.1 != name) = s.files := by
  rw [List.filter_eq_self]
  intro f hf
  rw [bne_iff_ne]
  rintro rfl
  exact get?_eq_none_iff.mp hNone (List.mem_map_of_mem hf)

------------------------------------------------------------
-- Files That Were Put In
------------------------------------------------------------

/-
  A shelf has grown from another by files that were not there,
  no two of one name, each with the bytes wanted for its name.
-/
def Grown
    (wanted : String → List UInt8 → Prop)
    (s t : Shelf) : Prop :=
  ∃ added : List (String × List UInt8),
    t = ⟨s.blocked, s.made || !added.isEmpty, s.files ++ added⟩ ∧
    (added.map (·.1)).Nodup ∧
    ∀ f ∈ added, s.get? f.1 = none ∧ wanted f.1 f.2

variable {wanted : String → List UInt8 → Prop} {s t : Shelf}

/- A shelf has grown from itself by nothing. -/
theorem Grown.refl (wanted : String → List UInt8 → Prop) (s : Shelf) :
    Grown wanted s s :=
  ⟨[], by simp, List.nodup_nil, by simp⟩

/- A shelf that has grown holds what was there before. -/
theorem Grown.within (hGrown : Grown wanted s t) : s.Within t := by
  rcases hGrown with ⟨added, rfl, _, _⟩
  intro name hName
  simp only [get?, List.lookup_append, Option.isSome_or,
    Bool.or_eq_true]
  exact .inl hName

/- A shelf stays blocked or open as it grows. -/
theorem Grown.blocked_eq (hGrown : Grown wanted s t) :
    t.blocked = s.blocked := by
  rcases hGrown with ⟨added, rfl, _, _⟩
  rfl

/- Rows of one name are replaced by one row. -/
theorem mem_map_filter_append
    {files : List (String × List UInt8)}
    {name n : String}
    {bytes : List UInt8} :
    n ∈ (files.filter (·.1 != name) ++ [(name, bytes)]).map (·.1) ↔
      n = name ∨ n ∈ files.map (·.1) := by
  simp only [List.map_append, List.mem_append, List.mem_map,
    List.mem_filter, bne_iff_ne, List.map_cons, List.map_nil,
    List.mem_singleton]
  constructor
  · rintro (⟨f, ⟨hf, _⟩, rfl⟩ | rfl)
    · exact .inr ⟨f, hf, rfl⟩
    · exact .inl rfl
  · rintro (rfl | ⟨f, hf, rfl⟩)
    · exact .inr rfl
    · by_cases hSame : f.1 = name
      · exact .inr hSame
      · exact .inl ⟨f, ⟨hf, hSame⟩, rfl⟩

/- What is fetched for a plain name is written to its file. -/
theorem receive_of_isPlain
    {E : Type}
    {sys : System}
    {name : String}
    (hOpen : t.blocked = false)
    (hPlain : isPlain name = true)
    (bytes : List UInt8) :
    (receive sys t name bytes : Delivery E × Shelf) =
      (.stored,
        ⟨t.blocked, true,
          t.files.filter (·.1 != name) ++ [(name, bytes)]⟩) := by
  simp only [receive, hOpen, Bool.false_eq_true, if_false,
    sys.place_of_isPlain _ _ hPlain]
  simp [make, write, hOpen]

/-
  A shelf that has grown grows by a row that takes the place of
  all rows of its name, if no file of that name was there first.
-/
theorem Grown.replace
    {name : String}
    {bytes : List UInt8}
    (hGrown : Grown wanted s t)
    (hNew : s.get? name = none)
    (hWanted : wanted name bytes) :
    Grown wanted s
      ⟨t.blocked, true,
        t.files.filter (·.1 != name) ++ [(name, bytes)]⟩ := by
  rcases hGrown with ⟨added, rfl, hNames, hAdded⟩
  refine ⟨added.filter (·.1 != name) ++ [(name, bytes)], ?_, ?_, ?_⟩
  · simp [List.filter_append, filter_eq_self_of_get?_eq_none hNew]
  · rw [List.map_append, List.nodup_append]
    refine ⟨?_, by simp, ?_⟩
    · exact hNames.sublist (List.filter_sublist.map _)
    · intro n hn n' hn'
      rcases List.mem_map.mp hn with ⟨f, hf, rfl⟩
      rcases List.mem_filter.mp hf with ⟨_, hOther⟩
      simp only [List.map_cons, List.map_nil,
        List.mem_singleton] at hn'
      subst hn'
      simpa using hOther
  · intro f hf
    rcases List.mem_append.mp hf with hOld | hLast
    · exact hAdded f (List.mem_filter.mp hOld).1
    · rw [List.mem_singleton.mp hLast]
      exact ⟨hNew, hWanted⟩

/-
  A delivery that looked for its file since a shelf began to
  grow lets it grow further: a medium that can be fetched is
  there in the end, and nothing that was there goes.
-/
theorem Grown.deliverSince
    {E : Type}
    {sys : System}
    {fetch : String → Except E (List UInt8)}
    {seen : Shelf}
    {m : MediaFile}
    (hGrown : Grown wanted s t)
    (hOpen : s.blocked = false)
    (hPlain : isPlain m.name = true)
    (hWanted : ∀ bytes, fetch m.url = .ok bytes → wanted m.name bytes)
    (hBefore : s.Within seen)
    (hAfter : seen.Within t) :
    Grown wanted s (Shelf.deliverSince sys t seen fetch m).2 ∧
      ((∃ e, fetch m.url = .error e) ∨
        ((Shelf.deliverSince sys t seen fetch m).2.get?
          m.name).isSome) ∧
      t.Within (Shelf.deliverSince sys t seen fetch m).2 := by
  simp only [Shelf.deliverSince, finds_of_isPlain hPlain]
  cases hSeen : (seen.get? m.name).isSome with
  | true => exact ⟨hGrown, .inr (hAfter _ hSeen), fun _ h => h⟩
  | false =>
      cases hFetch : fetch m.url with
      | error e => exact ⟨hGrown, .inl ⟨e, rfl⟩, fun _ h => h⟩
      | ok bytes =>
          have hNew : s.get? m.name = none := by
            rw [← Option.not_isSome_iff_eq_none]
            intro hOld
            simp [hBefore _ hOld] at hSeen
          have hStillOpen : t.blocked = false :=
            hGrown.blocked_eq.trans hOpen
          simp only [Bool.false_eq_true, if_false,
            receive_of_isPlain hStillOpen hPlain]
          refine ⟨?_, .inr ?_, ?_⟩
          · exact hGrown.replace hNew (hWanted bytes hFetch)
          · rw [isSome_get?_iff, mem_map_filter_append]
            exact .inl rfl
          · intro n hn
            rw [isSome_get?_iff, mem_map_filter_append]
            exact .inr (isSome_get?_iff.mp hn)

end Shelf

end Gleaner
