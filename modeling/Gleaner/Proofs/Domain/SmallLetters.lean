import Gleaner.Proofs.Domain.PlainForm

/-
  Small letters in the names of domains.  They are written from
  the left, so that those in front of a name may be exchanged for
  others.  Capitals are read as small letters.

  Main declarations:
    * `Domain.IsSmall`
    * `Domain.IsWord`
    * `Domain.directionOf_of_isSmall`
    * `Domain.toPlain?_exchange`
    * `Domain.toPlain?_of_isSmall`
    * `Domain.toPlain?_map_toLower`
-/

namespace Gleaner

namespace Domain

------------------------------------------------------------
-- Small Letters
------------------------------------------------------------

/- The letters `a` to `z`. -/
def IsSmall (c : Char) : Prop :=
  97 ≤ c.toNat ∧ c.toNat ≤ 122

instance (c : Char) : Decidable (IsSmall c) :=
  inferInstanceAs (Decidable (97 ≤ c.toNat ∧ c.toNat ≤ 122))

variable {c : Char}

/- A small letter is a character of plain forms, and no dot. -/
theorem isNameChar_of_isSmall (hc : IsSmall c) :
    IsNameChar c ∧ c ≠ '.' := by
  refine ⟨isNameChar_of_range (.inr (.inr (.inr hc))), ?_⟩
  rintro rfl
  exact absurd hc (by decide)

/- A small letter is no digit. -/
theorem isDigit_of_isSmall (hc : IsSmall c) :
    Text.isDigit c = false := by
  have hRange := hc.1
  rw [Text.isDigit, Bool.and_eq_false_iff]
  right
  rw [decide_eq_false_iff_not]
  omega

-- the tables are long, and only their ranges are looked at
set_option maxRecDepth 200000 in
/- No table of directions holds a small letter. -/
theorem tables_of_isSmall (hc : IsSmall c) :
    digitTable.contains c = false ∧
      arabicDigitTable.contains c = false ∧
      neutralTable.contains c = false ∧
      directedMarkTable.contains c = false ∧
      separatorTable.contains c = false := by
  rw [digitTable, arabicDigitTable, neutralTable, directedMarkTable,
    separatorTable]
  refine ⟨?_, ?_, ?_, ?_, ?_⟩
  all_goals
    refine contains_eq_false_of_apart ⟨_, rfl, ?_⟩ hc
    decide +kernel

/- Small letters are written from the left. -/
theorem directionOf_of_isSmall (hc : IsSmall c) :
    directionOf c = .left := by
  have hPlain := (isNameChar_of_isSmall hc).1.plain
  rcases tables_of_isSmall hc with
    ⟨hDigit, hArabic, hNeutral, hMark, hSeparator⟩
  rw [directionOf, rightTable_of_isPlain hPlain, hDigit, hArabic,
    hNeutral, hMark, hSeparator]
  rfl

------------------------------------------------------------
-- Exchanged Letters
------------------------------------------------------------

/- Small letters, of which the first one does not start a mark. -/
structure IsWord (a : List Char) : Prop where
  small : ∀ c ∈ a, IsSmall c
  starts : ∃ c cs, a = c :: cs ∧ c ≠ 'x'

variable {a b rest : List Char}

/- Whether a text is a word is seen from its characters. -/
theorem isWord_iff :
    IsWord a ↔
      (a.all fun c => decide (IsSmall c)) = true ∧
        a.head?.any (· != 'x') = true := by
  rw [List.all_eq_true]
  constructor
  · rintro ⟨hSmall, c, cs, rfl, hc⟩
    exact ⟨fun d hd => decide_eq_true (hSmall d hd), bne_iff_ne.mpr hc⟩
  · rintro ⟨hSmall, hStart⟩
    refine ⟨fun c hc => of_decide_eq_true (hSmall c hc), ?_⟩
    cases a with
    | nil => cases hStart
    | cons c cs => exact ⟨c, cs, rfl, bne_iff_ne.mp hStart⟩

instance : Decidable (IsWord a) :=
  decidable_of_iff _ isWord_iff.symm

theorem IsWord.exists_cons
    (hWord : IsWord a) :
    ∃ c cs, a = c :: cs ∧ IsSmall c := by
  rcases hWord.starts with ⟨c, cs, rfl, _⟩
  exact ⟨c, cs, rfl, hWord.small c List.mem_cons_self⟩

/- There is no dot in a word. -/
theorem IsWord.ne_dot
    (hWord : IsWord a) :
    ∀ c ∈ a, c ≠ '.' :=
  fun c hc => (isNameChar_of_isSmall (hWord.small c hc)).2

/- As many small letters have the same directions. -/
theorem map_directionOf_append
    (ha : ∀ c ∈ a, IsSmall c)
    (hb : ∀ c ∈ b, IsSmall c)
    (hLength : a.length = b.length)
    (rest : List Char) :
    (a ++ rest).map directionOf = (b ++ rest).map directionOf := by
  have hLeft : ∀ {cs : List Char}, (∀ c ∈ cs, IsSmall c) →
      cs.map directionOf = List.replicate cs.length .left := by
    intro cs hSmall
    rw [List.eq_replicate_iff, List.length_map]
    refine ⟨rfl, ?_⟩
    intro d hd
    rcases List.mem_map.mp hd with ⟨c, hc, rfl⟩
    exact directionOf_of_isSmall (hSmall c hc)
  rw [List.map_append, List.map_append, hLeft ha, hLeft hb, hLength]

/- Labels with the same directions turn alike and fit alike. -/
theorem directions_congr
    {label other : List Char}
    (hSame : label.map directionOf = other.map directionOf) :
    turnsRight label = turnsRight other ∧
      directionFits label = directionFits other := by
  have hTurns : ∀ cs, turnsRight cs =
      (cs.map directionOf).any fun d =>
        d == .right || d == .arabicDigit := by
    intro cs
    rw [turnsRight, List.any_map, Function.comp_def]
  constructor
  · rw [hTurns, hTurns, hSame]
  · rw [directionFits, directionFits, hSame]

/-
  A label that starts with a small letter other than `x` has plain
  characters, as the mark of other labels starts with that letter.
-/
theorem eq_of_writeLabel_eq
    {label : List Char}
    {c : Char}
    (hWrite : writeLabel label = c :: rest)
    (hc : c ≠ 'x') :
    label = c :: rest := by
  rw [writeLabel] at hWrite
  split at hWrite
  · exact hWrite
  · rw [plainMark, List.cons_append, List.cons.injEq] at hWrite
    exact absurd hWrite.1.symm hc

/- Behind a word, any characters of names make a label. -/
theorem IsWord.isLabel_append
    (hb : IsWord b)
    (hRest : ∀ c ∈ rest, IsNameChar c ∧ c ≠ '.') :
    IsLabel (b ++ rest) := by
  apply isLabel_of_isNameChar
  · intro c hc
    rcases List.mem_append.mp hc with hSmall | hOther
    · exact isNameChar_of_isSmall (hb.small c hSmall)
    · exact hRest c hOther
  · rcases hb.starts with ⟨c, cs, rfl, hc⟩
    rw [Text.dropPrefix?_eq_none_iff]
    intro hMark
    rw [plainMark, List.cons_append, List.cons_prefix_cons] at hMark
    exact hc hMark.1.symm

/-
  The word that the plain form of a name starts with may be
  exchanged for another one of the same length.
-/
theorem toPlain?_exchange
    (ha : IsWord a)
    (hb : IsWord b)
    (hLength : a.length = b.length)
    (hPlain : toPlain? (a ++ rest) = some (a ++ rest)) :
    toPlain? (b ++ rest) = some (b ++ rest) := by
  rcases exists_labels_of_toPlain? hPlain with
    ⟨labels, hSome, hLabels, hFits, hText⟩
  -- the first label starts with the letters, the others stay
  have hCut :
      (Text.cutAt (· == '.') rest).modifyHead (a ++ ·) =
        labels.map writeLabel := by
    rw [← Text.cutAt_append_front, hText]
    · apply Text.cutAt_joinWith
      · simpa using hSome
      · intro piece hPiece hDot
        rcases List.mem_map.mp hPiece with ⟨label, hLabel, rfl⟩
        exact ((hLabels label hLabel).isNameChar hDot).2 rfl
    · exact fun c hc => beq_eq_false_iff_ne.mpr (ha.ne_dot c hc)
  rcases List.exists_cons_of_ne_nil hSome with ⟨first, others, rfl⟩
  rcases List.exists_cons_of_ne_nil
    (Text.cutAt_ne_nil (· == '.') rest) with ⟨piece, pieces, hRest⟩
  rw [hRest, List.modifyHead_cons, List.map_cons, List.cons.injEq] at hCut
  rcases hCut with ⟨hPiece, hPieces⟩
  rw [List.forall_mem_cons] at hLabels
  have hLabel : first = a ++ piece := by
    rcases ha.starts with ⟨c, cs, rfl, hc⟩
    exact eq_of_writeLabel_eq hPiece.symm hc
  have hChars : ∀ c ∈ piece, IsNameChar c ∧ c ≠ '.' := by
    intro c hc
    apply hLabels.1.isNameChar
    rw [← hPiece]
    exact List.mem_append_right a hc
  have hNew : writeLabel (b ++ piece) = b ++ piece := by
    apply writeLabel_of_isPlain
    intro c hc
    rcases List.mem_append.mp hc with hSmall | hOld
    · exact (isNameChar_of_isSmall (hb.small c hSmall)).1.plain
    · exact (hChars c hOld).1.plain
  have hName :
      b ++ rest =
        Text.joinWith ['.'] (((b ++ piece) :: others).map writeLabel) := by
    rw [List.map_cons, hNew, ← hPieces, Text.joinWith_append_cons, ← hRest,
      Text.joinWith_cutAt]
  rw [hName]
  apply toPlain?_joinWith_writeLabel
  · exact List.cons_ne_nil _ _
  · rw [List.forall_mem_cons]
    exact ⟨hb.isLabel_append hChars, hLabels.2⟩
  · have hSame := directions_congr
      (map_directionOf_append ha.small hb.small hLength piece)
    rw [hLabel, List.any_cons, List.all_cons, hSame.1, hSame.2] at hFits
    rw [List.any_cons, List.all_cons]
    exact hFits

/- A name of small letters is its own plain form. -/
theorem toPlain?_of_isSmall
    {labels : List (List Char)}
    (hSome : labels ≠ [])
    (hSmall : ∀ label ∈ labels, ∀ c ∈ label, IsSmall c) :
    toPlain? (Text.joinWith ['.'] labels) =
      some (Text.joinWith ['.'] labels) := by
  apply toPlain?_of_isLabel hSome
  · intro label hLabel
    apply isLabel_of_isNameChar
    · exact fun c hc => isNameChar_of_isSmall (hSmall label hLabel c hc)
    · rw [Text.dropPrefix?_eq_none_iff]
      intro hMark
      have hDash : '-' ∈ label := hMark.subset (by decide)
      exact absurd (hSmall label hLabel '-' hDash) (by decide)
  · exact fun label hLabel c hc =>
      (isNameChar_of_isSmall (hSmall label hLabel c hc)).1.plain
  · intro label hLabel
    rw [turnsRight, List.any_eq_false]
    intro c hc
    rw [directionOf_of_isSmall (hSmall label hLabel c hc)]
    decide

------------------------------------------------------------
-- Capitals
------------------------------------------------------------

/- Letters and the dot are plain characters. -/
theorem plain_of_isLetter
    (hc : Text.isLetter c = true ∨ c = '.') :
    c.toNat < 128 := by
  rcases hc with hLetter | rfl
  · simp only [Text.isLetter, Bool.or_eq_true, Bool.and_eq_true,
      decide_eq_true_iff] at hLetter
    omega
  · decide

/- A letter becomes the small letter, and the dot stays. -/
theorem mapChar?_of_isLetter
    (hc : Text.isLetter c = true ∨ c = '.') :
    mapChar? c = some [c.toLower] := by
  have hPlain := plain_of_isLetter hc
  by_cases hCapital : 65 ≤ c.toNat ∧ c.toNat ≤ 90
  · have hEach : ∀ n < 128, 65 ≤ n ∧ n ≤ 90 →
        capitals.replacement? (Char.ofNat n) =
          some [(Char.ofNat n).toLower] := by
      decide
    have hHere := hEach c.toNat hPlain hCapital
    rw [Char.ofNat_toNat] at hHere
    have hKept : ¬ isKept c = true := by
      rw [isKept_iff_of_isPlain hPlain, not_not]
      exact hCapital
    rw [mapChar?, if_neg hKept, rules, List.findSome?_cons, hHere]
  · have hEach : ∀ n < 128, ¬(65 ≤ n ∧ n ≤ 90) →
        (Char.ofNat n).toLower = Char.ofNat n := by
      decide
    have hHere := hEach c.toNat hPlain hCapital
    rw [Char.ofNat_toNat] at hHere
    rw [mapChar?, if_pos ((isKept_iff_of_isPlain hPlain).mpr hCapital),
      hHere]

/- Capitals in a name of letters are read as small letters. -/
theorem toPlain?_map_toLower
    {cs : List Char}
    (hLetters : ∀ c ∈ cs, Text.isLetter c = true ∨ c = '.') :
    toPlain? cs = toPlain? (cs.map Char.toLower) := by
  have hMap : map? cs = some (cs.map Char.toLower) := by
    have hEach : cs.mapM mapChar? = some (cs.map fun c => [c.toLower]) := by
      apply mapM_eq_some_of_forall₂
      rw [List.forall₂_map_right_iff, List.forall₂_same]
      exact fun c hc => mapChar?_of_isLetter (hLetters c hc)
    rw [map?, hEach, Option.map_some, ← List.flatMap_def,
      ← List.map_eq_flatMap]
  have hKept : ∀ c ∈ cs.map Char.toLower, isKept c = true := by
    rw [List.forall_mem_map]
    intro c hc
    have hSmall : ∀ n < 128, (Char.ofNat n).toLower.toNat < 128 ∧
        ¬(65 ≤ (Char.ofNat n).toLower.toNat ∧
          (Char.ofNat n).toLower.toNat ≤ 90) := by
      decide
    have hHere := hSmall c.toNat (plain_of_isLetter (hLetters c hc))
    rw [Char.ofNat_toNat] at hHere
    exact (isKept_iff_of_isPlain hHere.1).mpr hHere.2
  rw [toPlain?, toPlain?, hMap, map?_of_isKept hKept]

end Domain

end Gleaner
