import Gleaner.Domain.Name
import Gleaner.Proofs.Domain.Punycode
import Gleaner.Proofs.Text.Pieces

/-
  The plain form of a domain name is a domain name, and its own
  plain form: what was read once is read again without change.

  Main declarations:
    * `Domain.IsNameChar`
    * `Domain.IsLabel`
    * `Domain.isLabel_of_readLabel?`
    * `Domain.readLabel?_writeLabel`
    * `Domain.isNameChar_of_mem_toPlain?`
    * `Domain.toPlain?_toPlain?`
    * `Domain.toPlain?_of_isDigit`
-/

namespace Gleaner

------------------------------------------------------------
-- Decoded Texts
------------------------------------------------------------

namespace Punycode

/- One more character that is put in is not a plain one. -/
theorem mem_of_put?_eq_some
    {r next : Reading}
    {delta : Nat}
    {c : Char}
    (hCode : 128 ≤ r.code)
    (hPut : r.put? delta = some next)
    (hc : c ∈ next.out)
    (hPlain : c.toNat < 128) :
    c ∈ r.out := by
  rw [Reading.put?] at hPut
  split at hPut
  · cases hPut
  · rename_i hValid
    cases hPut
    rw [insertAt, List.mem_append, List.mem_cons] at hc
    rcases hc with hFront | hNew | hBack
    · exact List.mem_of_mem_take hFront
    · -- the new character has a code point beyond the plain ones
      simp only [Bool.or_eq_true, Bool.and_eq_true, decide_eq_true_eq]
        at hValid
      have hCodePoint :
          (r.code + (r.place + delta) / (r.out.length + 1)).isValidChar := by
        rw [Nat.isValidChar]
        omega
      rw [hNew, Char.ofNat, dif_pos hCodePoint] at hPlain
      exact absurd hPlain
        (Nat.not_lt.mpr (Nat.le_add_right_of_le hCode))
    · exact List.mem_of_mem_drop hBack

/- What is put in next has no smaller code point. -/
theorem code_le_of_put?_eq_some
    {r next : Reading}
    {delta : Nat}
    (hPut : r.put? delta = some next) :
    r.code ≤ next.code := by
  rw [Reading.put?] at hPut
  split at hPut
  · cases hPut
  · cases hPut
    exact Nat.le_add_right _ _

/-
  A reader puts in no plain characters: those that come out were
  there before.
-/
theorem mem_of_run_eq_some
    {r : Reading}
    {delta weight place : Nat}
    {cs full : List Char}
    {c : Char}
    (hCode : 128 ≤ r.code)
    (hRun : r.run delta weight place cs = some full)
    (hc : c ∈ full)
    (hPlain : c.toNat < 128) :
    c ∈ r.out := by
  induction cs generalizing r delta weight place with
  | nil =>
      rw [Reading.run] at hRun
      split at hRun
      · cases hRun
        exact hc
      · cases hRun
  | cons d cs ih =>
      rw [Reading.run] at hRun
      split at hRun
      · cases hRun
      · dsimp only at hRun
        split at hRun
        · split at hRun
          · rename_i next hPut
            have hNext : 128 ≤ next.code :=
              Nat.le_trans hCode (code_le_of_put?_eq_some hPut)
            exact mem_of_put?_eq_some hCode hPut (ih hNext hRun) hPlain
          · cases hRun
        · exact ih hCode hRun

/- The plain characters of a decoded text stand in its plain form. -/
theorem mem_of_decode?_eq_some
    {cs full : List Char}
    {c : Char}
    (hDecode : decode? cs = some full)
    (hc : c ∈ full)
    (hPlain : c.toNat < 128) :
    c ∈ cs := by
  rw [decode?] at hDecode
  split at hDecode
  · cases hDecode
  · exact List.mem_of_mem_take
      (mem_of_run_eq_some (Nat.le_refl _) hDecode hc hPlain)

end Punycode

namespace Domain

------------------------------------------------------------
-- Plain Characters
------------------------------------------------------------

set_option maxRecDepth 200000 in
/-
  The text of the table, as a list that can be computed with, and
  what it says about plain characters.
-/
theorem exists_keptText_eq :
    ∃ cs, keptText = String.ofList cs ∧
      ∀ n < 128,
        RangeTable.contains
          ⟨(Text.words Text.isGap cs).filterMap RangeTable.readRange?⟩
          (Char.ofNat n) = decide (¬(65 ≤ n ∧ n ≤ 90)) := by
  refine ⟨?cs, ?_, ?_⟩
  rotate_left
  · unfold keptText
    rfl
  · decide +kernel

/- Plain characters but the capitals stay what they are. -/
theorem isKept_iff_of_isPlain
    {c : Char}
    (hPlain : c.toNat < 128) :
    isKept c = true ↔ ¬(65 ≤ c.toNat ∧ c.toNat ≤ 90) := by
  rcases exists_keptText_eq with ⟨cs, hText, hAll⟩
  have hKept := hAll c.toNat hPlain
  rw [Char.ofNat_toNat] at hKept
  rw [isKept, keptTable, RangeTable.ofText, hText, String.toList_ofList,
    hKept, decide_eq_true_iff]

/-
  A character of a domain name in its plain form, or the dot
  between two labels.
-/
structure IsNameChar (c : Char) : Prop where
  plain : c.toNat < 128
  kept : isKept c = true
  allowed : isForbidden c = false

/- Dashes, dots, digits and small letters stand in plain forms. -/
theorem isNameChar_of_range
    {c : Char}
    (hRange :
      c = '-' ∨ c = '.' ∨ (48 ≤ c.toNat ∧ c.toNat ≤ 57) ∨
        (97 ≤ c.toNat ∧ c.toNat ≤ 122)) :
    IsNameChar c := by
  have hPlain : c.toNat < 128 ∧ ¬(65 ≤ c.toNat ∧ c.toNat ≤ 90) := by
    rcases hRange with rfl | rfl | hDigit | hLetter
    · decide
    · decide
    · omega
    · omega
  have hAllowed : ∀ n < 128,
      (n = 45 ∨ n = 46 ∨ (48 ≤ n ∧ n ≤ 57) ∨ (97 ≤ n ∧ n ≤ 122)) →
        isForbidden (Char.ofNat n) = false := by
    decide
  have hHere := hAllowed c.toNat hPlain.1 (by
    rcases hRange with rfl | rfl | hDigit | hLetter
    · decide
    · decide
    · exact .inr (.inr (.inl hDigit))
    · exact .inr (.inr (.inr hLetter)))
  rw [Char.ofNat_toNat] at hHere
  exact ⟨hPlain.1, (isKept_iff_of_isPlain hPlain.1).mpr hPlain.2, hHere⟩

/- The digits of plain forms stand in plain forms. -/
theorem isNameChar_digit
    {n : Nat}
    (hn : n < 36) :
    IsNameChar (Punycode.digit n) := by
  have hNat := Punycode.toNat_digit hn
  apply isNameChar_of_range
  split at hNat
  · omega
  · omega

/- A text of plain characters is spelled in one way. -/
theorem normalize_of_isPlain
    {cs : List Char}
    (hPlain : ∀ c ∈ cs, c.toNat < 128) :
    normalize cs = cs := by
  have hAll : cs.all (·.toNat < 0x300) = true := by
    rw [List.all_eq_true]
    intro c hc
    rw [decide_eq_true_iff]
    exact Nat.lt_trans (hPlain c hc) (by decide)
  rw [normalize, if_pos hAll]

/- Characters that are kept become nothing else. -/
theorem map?_of_isKept
    {cs : List Char}
    (hKept : ∀ c ∈ cs, isKept c = true) :
    map? cs = some cs := by
  have hEach : cs.mapM mapChar? = some (cs.map fun c => [c]) := by
    apply mapM_eq_some_of_forall₂
    rw [List.forall₂_map_right_iff, List.forall₂_same]
    intro c hc
    rw [mapChar?, if_pos (hKept c hc)]
  rw [map?, hEach, Option.map_some, List.flatten_eq_flatMap,
    List.flatMap_map]
  simp

------------------------------------------------------------
-- Labels
------------------------------------------------------------

/-
  A label in its full form, which is not taken for a plain form
  if its characters are plain.
-/
structure IsLabel (label : List Char) : Prop where
  isFullForm : isFullForm label = true
  unmarked : isPlain label = true →
    Text.dropPrefix? plainMark label = none
  undotted : '.' ∉ label

variable {label full : List Char}

/- A label that is read is one in its full form. -/
theorem isLabel_of_readLabel?
    (hRead : readLabel? label = some full)
    (hUndotted : '.' ∉ label) :
    IsLabel full := by
  rw [readLabel?] at hRead
  split at hRead
  · rename_i hUnmarked
    split at hRead
    · rename_i hFull
      cases hRead
      exact ⟨hFull, fun _ => hUnmarked, hUndotted⟩
    · cases hRead
  · rename_i digits hMarked
    split at hRead
    · cases hRead
    · rename_i decoded hDecode
      split at hRead
      · rename_i hFits
        cases hRead
        rw [Bool.and_eq_true, Bool.and_eq_true] at hFits
        refine ⟨hFits.2, ?_, ?_⟩
        · intro hPlain
          rw [hPlain] at hFits
          exact absurd hFits.1.2 (by decide)
        · intro hDot
          have hMem :=
            Punycode.mem_of_decode?_eq_some hDecode hDot (by decide)
          rw [Text.eq_append_of_dropPrefix? hMarked] at hUndotted
          exact hUndotted (List.mem_append_right _ hMem)
      · cases hRead

/- The conditions on a label in its full form. -/
theorem isFullForm_iff :
    isFullForm label = true ↔
      (∀ c ∈ label, isKept c = true) ∧ normalize label = label ∧
        labelFits label = true := by
  rw [isFullForm, Bool.and_eq_true, Bool.and_eq_true, List.all_eq_true,
    beq_iff_eq, and_assoc]

/- No forbidden character stands in a label. -/
theorem isForbidden_of_labelFits
    {c : Char}
    (hFits : labelFits label = true)
    (hc : c ∈ label) :
    isForbidden c = false := by
  rw [labelFits, Bool.and_eq_true, Bool.and_eq_true,
    Bool.not_eq_true', List.any_eq_false] at hFits
  exact eq_false_of_ne_true (hFits.1.1 c hc)

/- A written label has characters of plain forms and no dots. -/
theorem IsLabel.isNameChar
    {c : Char}
    (hLabel : IsLabel label)
    (hc : c ∈ writeLabel label) :
    IsNameChar c ∧ c ≠ '.' := by
  rcases isFullForm_iff.mp hLabel.isFullForm with ⟨hKept, _, hFits⟩
  have hOwn : c ∈ label → c.toNat < 128 → IsNameChar c ∧ c ≠ '.' := by
    intro hMem hPlain
    refine ⟨⟨hPlain, hKept c hMem, isForbidden_of_labelFits hFits hMem⟩, ?_⟩
    rintro rfl
    exact hLabel.undotted hMem
  rw [writeLabel] at hc
  split at hc
  · rename_i hPlain
    rw [isPlain, List.all_eq_true] at hPlain
    exact hOwn hc (of_decide_eq_true (hPlain c hc))
  · rcases List.mem_append.mp hc with hMark | hCode
    · simp only [plainMark, List.mem_cons, List.not_mem_nil,
        or_false] at hMark
      rcases hMark with rfl | rfl | rfl | rfl
      · exact ⟨isNameChar_of_range (by decide), by decide⟩
      · exact ⟨isNameChar_of_range (by decide), by decide⟩
      · exact ⟨isNameChar_of_range (by decide), by decide⟩
      · exact ⟨isNameChar_of_range (by decide), by decide⟩
    · rcases Punycode.mem_encode hCode with
        ⟨hMem, hPlain⟩ | rfl | ⟨n, hn, rfl⟩
      · exact hOwn hMem hPlain
      · exact ⟨isNameChar_of_range (.inl rfl), by decide⟩
      · refine ⟨isNameChar_digit hn, ?_⟩
        intro hDot
        have hNat := Punycode.toNat_digit hn
        rw [hDot] at hNat
        split at hNat
        · simp at hNat
          omega
        · simp at hNat
          omega

/- A label that is written is read back. -/
theorem readLabel?_writeLabel (hLabel : IsLabel label) :
    readLabel? (writeLabel label) = some label := by
  rw [writeLabel]
  split
  · rename_i hPlain
    rw [readLabel?, hLabel.unmarked hPlain]
    dsimp only
    rw [if_pos hLabel.isFullForm]
  · rename_i hOther
    have hDigits : isPlain (Punycode.encode label) = true := by
      rw [isPlain, List.all_eq_true]
      intro c hc
      rw [decide_eq_true_iff]
      rcases Punycode.mem_encode hc with
        ⟨_, hPlain⟩ | rfl | ⟨n, hn, rfl⟩
      · exact hPlain
      · decide
      · exact (isNameChar_digit hn).plain
    rw [readLabel?, Text.dropPrefix?_append]
    dsimp only
    rw [Punycode.decode?_encode]
    dsimp only
    rw [hDigits, hLabel.isFullForm, eq_false_of_ne_true hOther]
    rfl

------------------------------------------------------------
-- Names
------------------------------------------------------------

variable {cs out : List Char}

/-
  The plain form of a name is written from labels of which none
  or all are written in a direction that fits.
-/
theorem exists_labels_of_toPlain?
    (hPlain : toPlain? cs = some out) :
    ∃ labels : List (List Char),
      labels ≠ [] ∧ (∀ label ∈ labels, IsLabel label) ∧
      (labels.any turnsRight && !labels.all directionFits) = false ∧
      out = Text.joinWith ['.'] (labels.map writeLabel) := by
  rw [toPlain?] at hPlain
  rcases Option.bind_eq_some_iff.mp hPlain with ⟨mapped, _, hMapped⟩
  rcases Option.bind_eq_some_iff.mp hMapped with ⟨labels, hRead, hRest⟩
  have hLabels := forall₂_of_mapM_eq_some hRead
  refine ⟨labels, ?_, ?_, ?_⟩
  · rintro rfl
    rw [List.forall₂_nil_right_iff] at hLabels
    exact Text.cutAt_ne_nil _ _ hLabels
  · intro full hFull
    rcases List.mem_iff_getElem.mp hFull with ⟨i, hi, rfl⟩
    have hSize := hLabels.length_eq
    have hPiece :=
      List.getElem_mem (show i < _ from hSize ▸ hi)
    refine isLabel_of_readLabel? (hLabels.get (hSize ▸ hi) hi) ?_
    intro hDot
    exact absurd
      (Text.not_isCut_of_mem_cutAt hPiece hDot) (by decide)
  · split at hRest
    · cases hRest
    · rename_i hFits
      cases hRest
      exact ⟨eq_false_of_ne_true hFits, rfl⟩

/- The characters of a name that is written from labels. -/
theorem isNameChar_of_mem_joinWith
    {labels : List (List Char)}
    {c : Char}
    (hLabels : ∀ label ∈ labels, IsLabel label)
    (hc : c ∈ Text.joinWith ['.'] (labels.map writeLabel)) :
    IsNameChar c := by
  rcases Text.mem_joinWith_cases hc with hDot | ⟨piece, hPiece, hMem⟩
  · exact isNameChar_of_range (.inr (.inl (by simpa using hDot)))
  · rcases List.mem_map.mp hPiece with ⟨label, hLabel, rfl⟩
    exact ((hLabels label hLabel).isNameChar hMem).1

/- The characters of the plain form of a name. -/
theorem isNameChar_of_mem_toPlain?
    {c : Char}
    (hPlain : toPlain? cs = some out)
    (hc : c ∈ out) :
    IsNameChar c := by
  rcases exists_labels_of_toPlain? hPlain with
    ⟨labels, _, hLabels, _, rfl⟩
  exact isNameChar_of_mem_joinWith hLabels hc

/- A name that is written from labels is its own plain form. -/
theorem toPlain?_joinWith_writeLabel
    {labels : List (List Char)}
    (hSome : labels ≠ [])
    (hLabels : ∀ label ∈ labels, IsLabel label)
    (hFits : (labels.any turnsRight && !labels.all directionFits) = false) :
    toPlain? (Text.joinWith ['.'] (labels.map writeLabel)) =
      some (Text.joinWith ['.'] (labels.map writeLabel)) := by
  have hChars :
      ∀ c ∈ Text.joinWith ['.'] (labels.map writeLabel),
        IsNameChar c :=
    fun c => isNameChar_of_mem_joinWith hLabels
  have hCut :
      Text.cutAt (· == '.')
        (Text.joinWith ['.'] (labels.map writeLabel)) =
        labels.map writeLabel := by
    apply Text.cutAt_joinWith
    · simpa using hSome
    · intro piece hPiece hDot
      rcases List.mem_map.mp hPiece with ⟨label, hLabel, rfl⟩
      exact ((hLabels label hLabel).isNameChar hDot).2 rfl
  have hRead : (labels.map writeLabel).mapM readLabel? = some labels := by
    apply mapM_eq_some_of_forall₂
    rw [List.forall₂_map_left_iff, List.forall₂_same]
    intro label hLabel
    exact readLabel?_writeLabel (hLabels label hLabel)
  rw [toPlain?, map?_of_isKept fun c hc => (hChars c hc).kept]
  dsimp only [bind, Option.bind]
  rw [normalize_of_isPlain fun c hc => (hChars c hc).plain, hCut, hRead]
  dsimp only [bind, Option.bind]
  rw [if_neg (ne_true_of_eq_false hFits)]
  rfl

/- The plain form of a name is its own plain form. -/
theorem toPlain?_toPlain?
    (hPlain : toPlain? cs = some out) :
    toPlain? out = some out := by
  rcases exists_labels_of_toPlain? hPlain with
    ⟨labels, hSome, hLabels, hFits, rfl⟩
  exact toPlain?_joinWith_writeLabel hSome hLabels hFits

------------------------------------------------------------
-- Names of Plain Characters
------------------------------------------------------------

/-
  A table holds no character of a range that is apart from all of
  its own ranges.
-/
theorem contains_eq_false_of_apart
    {low high : Nat}
    {text : String}
    {c : Char}
    (hTable :
      ∃ cs, text = String.ofList cs ∧
        ((Text.words Text.isGap cs).filterMap RangeTable.readRange?).all
          (fun range => range.2 < low || high < range.1) = true)
    (hc : low ≤ c.toNat ∧ c.toNat ≤ high) :
    (RangeTable.ofText text).contains c = false := by
  rcases hTable with ⟨cs, rfl, hAll⟩
  rw [RangeTable.ofText, String.toList_ofList, RangeTable.contains,
    List.any_eq_false]
  intro range hRange
  have hApart := List.all_eq_true.mp hAll range hRange
  rw [Bool.or_eq_true, decide_eq_true_iff, decide_eq_true_iff] at hApart
  rw [Bool.and_eq_true, decide_eq_true_iff, decide_eq_true_iff]
  omega

set_option maxRecDepth 200000 in
/- No plain character is a mark. -/
theorem isMark_of_isPlain
    {c : Char}
    (hPlain : c.toNat < 128) :
    isMark c = false := by
  rw [isMark, markTable]
  refine contains_eq_false_of_apart ⟨?cs, ?_, ?_⟩
    ⟨Nat.zero_le _, Nat.le_of_lt_succ hPlain⟩
  rotate_left
  · rfl
  · decide +kernel

set_option maxRecDepth 200000 in
/- No plain character belongs to a script from the right. -/
theorem rightTable_of_isPlain
    {c : Char}
    (hPlain : c.toNat < 128) :
    rightTable.contains c = false := by
  rw [rightTable]
  refine contains_eq_false_of_apart ⟨?cs, ?_, ?_⟩
    ⟨Nat.zero_le _, Nat.le_of_lt_succ hPlain⟩
  rotate_left
  · rfl
  · decide +kernel

/- There are no joiners among plain characters. -/
theorem joinersFit_of_isPlain
    {label : List Char}
    (hPlain : ∀ c ∈ label, c.toNat < 128) :
    joinersFit label = true := by
  have hFrom : ∀ before, joinersFitFrom before label = true := by
    induction label with
    | nil => exact fun _ => rfl
    | cons c label ih =>
        intro before
        have hc := hPlain c List.mem_cons_self
        have hBoth : (c == '\u200D') = false := by
          rw [beq_eq_false_iff_ne]
          rintro rfl
          exact absurd hc (by decide)
        have hApart : (c == '\u200C') = false := by
          rw [beq_eq_false_iff_ne]
          rintro rfl
          exact absurd hc (by decide)
        simp only [joinersFitFrom, hBoth, hApart, Bool.false_eq_true,
          if_false, Bool.true_and]
        exact ih (fun d hd => hPlain d (List.mem_cons_of_mem c hd)) _
  exact hFrom []

/- Characters of plain forms are a label without the mark in front. -/
theorem isLabel_of_isNameChar
    {label : List Char}
    (hChars : ∀ c ∈ label, IsNameChar c ∧ c ≠ '.')
    (hUnmarked : Text.dropPrefix? plainMark label = none) :
    IsLabel label := by
  have hPlain : ∀ c ∈ label, c.toNat < 128 := fun c hc =>
    (hChars c hc).1.plain
  have hAllowed : label.any isForbidden = false := by
    rw [List.any_eq_false]
    intro c hc
    exact ne_true_of_eq_false (hChars c hc).1.allowed
  have hMark : label.head?.any isMark = false := by
    cases label with
    | nil => rfl
    | cons c label =>
        rw [List.head?_cons, Option.any_some]
        exact isMark_of_isPlain (hPlain c List.mem_cons_self)
  refine ⟨isFullForm_iff.mpr ⟨fun c hc => (hChars c hc).1.kept,
    normalize_of_isPlain hPlain, ?_⟩, fun _ => hUnmarked, fun hDot => ?_⟩
  · rw [labelFits, hAllowed, hMark, joinersFit_of_isPlain hPlain]
    rfl
  · exact (hChars '.' hDot).2 rfl

/- A label of plain characters is written as it is. -/
theorem writeLabel_of_isPlain
    {label : List Char}
    (hPlain : ∀ c ∈ label, c.toNat < 128) :
    writeLabel label = label := by
  rw [writeLabel, if_pos]
  rw [isPlain, List.all_eq_true]
  intro c hc
  exact decide_eq_true (hPlain c hc)

/-
  A name of labels in plain characters is its own plain form if no
  label turns the direction of writing.
-/
theorem toPlain?_of_isLabel
    {labels : List (List Char)}
    (hSome : labels ≠ [])
    (hLabels : ∀ label ∈ labels, IsLabel label)
    (hPlain : ∀ label ∈ labels, ∀ c ∈ label, c.toNat < 128)
    (hLeft : ∀ label ∈ labels, turnsRight label = false) :
    toPlain? (Text.joinWith ['.'] labels) =
      some (Text.joinWith ['.'] labels) := by
  have hWrite : labels.map writeLabel = labels :=
    (List.map_congr_left fun label hLabel =>
      writeLabel_of_isPlain (hPlain label hLabel)).trans (List.map_id _)
  have hFits :
      (labels.any turnsRight && !labels.all directionFits) = false := by
    have hNone : labels.any turnsRight = false := by
      rw [List.any_eq_false]
      intro label hLabel
      exact ne_true_of_eq_false (hLeft label hLabel)
    rw [hNone, Bool.false_and]
  have hName := toPlain?_joinWith_writeLabel hSome hLabels hFits
  rwa [hWrite] at hName

------------------------------------------------------------
-- Names of Digits
------------------------------------------------------------

/- Digits have the direction of digits. -/
theorem directionOf_of_isDigit
    {c : Char}
    (hc : Text.isDigit c = true) :
    directionOf c = .digit := by
  rw [Text.isDigit, Bool.and_eq_true, decide_eq_true_iff,
    decide_eq_true_iff] at hc
  have hDigit : digitTable.contains c = true := by
    have hAll :
        ∀ n < 58, 48 ≤ n → digitTable.contains (Char.ofNat n) = true := by
      decide +kernel
    have hHere := hAll c.toNat (by omega) hc.1
    rwa [Char.ofNat_toNat] at hHere
  rw [directionOf, rightTable_of_isPlain (by omega), hDigit]
  rfl

/- A digit is a character of plain forms. -/
theorem isNameChar_of_isDigit
    {c : Char}
    (hc : Text.isDigit c = true) :
    IsNameChar c := by
  rw [Text.isDigit, Bool.and_eq_true, decide_eq_true_iff,
    decide_eq_true_iff] at hc
  exact isNameChar_of_range (.inr (.inr (.inl hc)))

/- Digits are a label. -/
theorem isLabel_of_isDigit
    {label : List Char}
    (hDigits : ∀ c ∈ label, Text.isDigit c = true) :
    IsLabel label := by
  apply isLabel_of_isNameChar
  · intro c hc
    refine ⟨isNameChar_of_isDigit (hDigits c hc), ?_⟩
    rintro rfl
    exact absurd (hDigits '.' hc) (by decide)
  · rw [Text.dropPrefix?_eq_none_iff]
    intro hMark
    exact absurd (hDigits 'x' (hMark.subset List.mem_cons_self)) (by decide)

/- Digits do not turn the direction of writing. -/
theorem turnsRight_of_isDigit
    {label : List Char}
    (hDigits : ∀ c ∈ label, Text.isDigit c = true) :
    turnsRight label = false := by
  rw [turnsRight, List.any_eq_false]
  intro c hc
  rw [directionOf_of_isDigit (hDigits c hc)]
  decide

/- A name whose labels are digits is its own plain form. -/
theorem toPlain?_of_isDigit
    {labels : List (List Char)}
    (hSome : labels ≠ [])
    (hDigits : ∀ label ∈ labels, ∀ c ∈ label, Text.isDigit c = true) :
    toPlain? (Text.joinWith ['.'] labels) =
      some (Text.joinWith ['.'] labels) := by
  apply toPlain?_of_isLabel hSome
  · exact fun label hLabel => isLabel_of_isDigit (hDigits label hLabel)
  · intro label hLabel c hc
    exact (isNameChar_of_isDigit (hDigits label hLabel c hc)).plain
  · intro label hLabel
    exact turnsRight_of_isDigit (hDigits label hLabel)

end Domain

end Gleaner
