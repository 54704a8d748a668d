import Gleaner.Text.Blank
import Gleaner.Text.Cut
import Mathlib.Data.List.Basic

/-
  Trimmed texts and joined pieces: what trimming keeps, and
  what filters see of it.

  Main declarations:
    * `Text.trim_trim`
    * `Text.trim_of_ends`
    * `Text.trim_append`
    * `Text.trimEnd_eq_self_iff`
    * `Text.trim_eq_nil_iff`
    * `Text.filter_trim`
    * `Text.filter_joinWith`
-/

namespace Gleaner

namespace Text

------------------------------------------------------------
-- Trimming
------------------------------------------------------------

/- Nothing is dropped in front of a character that is not white. -/
theorem trimStart_cons
    {c : Char}
    (hc : isBlank c = false)
    (cs : List Char) :
    trimStart (c :: cs) = c :: cs := by
  simp [trimStart, hc]

/- What is left after trimming in front starts with no blank. -/
theorem trimStart_cases (cs : List Char) :
    trimStart cs = [] ∨
      ∃ c rest, trimStart cs = c :: rest ∧ isBlank c = false := by
  induction cs with
  | nil => exact .inl rfl
  | cons c cs ih =>
      cases hc : isBlank c with
      | true =>
          rw [trimStart, hc]
          exact ih
      | false => exact .inr ⟨c, cs, trimStart_cons hc cs, hc⟩

/- A character that is not white stays where it stands. -/
theorem trimEnd_cons
    {c : Char}
    (hc : isBlank c = false)
    (cs : List Char) :
    trimEnd (c :: cs) = c :: trimEnd cs := by
  rw [trimEnd]
  split
  · rename_i hNone
    simp [hc, hNone]
  · rfl

/- A start that is not white stays where it stands. -/
theorem trimEnd_append_of_not_blank
    {front : List Char}
    (hFront : ∀ c ∈ front, isBlank c = false)
    (rest : List Char) :
    trimEnd (front ++ rest) = front ++ trimEnd rest := by
  induction front with
  | nil => rfl
  | cons c front ih =>
      rw [List.cons_append, trimEnd_cons (hFront c List.mem_cons_self),
        ih fun d hd => hFront d (List.mem_cons_of_mem c hd)]
      rfl

/- Nothing is dropped behind a character that is not white. -/
theorem trimEnd_concat
    {c : Char}
    (hc : isBlank c = false)
    (cs : List Char) :
    trimEnd (cs ++ [c]) = cs ++ [c] := by
  induction cs with
  | nil => simp [trimEnd, hc]
  | cons d cs ih =>
      rw [List.cons_append, trimEnd, ih]
      cases cs <;> rfl

/- What was trimmed at the end is left alone. -/
theorem trimEnd_trimEnd (cs : List Char) :
    trimEnd (trimEnd cs) = trimEnd cs := by
  induction cs with
  | nil => rfl
  | cons c cs ih =>
      rw [trimEnd]
      split
      · cases hc : isBlank c with
        | true => rfl
        | false => simp [trimEnd, hc]
      · rename_i kept hKept
        rw [trimEnd, ih]
        split
        · rename_i hNone
          exact absurd hNone hKept
        · rfl

/- A text that was trimmed is left alone. -/
theorem trim_trim (cs : List Char) :
    trim (trim cs) = trim cs := by
  rw [trim, trim]
  rcases trimStart_cases cs with hNone | ⟨c, rest, hSome, hc⟩
  · rw [hNone]
    rfl
  · rw [hSome, trimEnd_cons hc, trimStart_cons hc, trimEnd_cons hc,
      trimEnd_trimEnd]

/- A text without blanks at its ends is left alone. -/
theorem trim_of_ends
    {c d : Char}
    (hc : isBlank c = false)
    (hd : isBlank d = false)
    (cs : List Char) :
    trim (c :: (cs ++ [d])) = c :: (cs ++ [d]) := by
  rw [trim, trimStart_cons hc, trimEnd_cons hc, trimEnd_concat hd]

/- Blanks in front are trimmed away. -/
theorem trimStart_append
    {front : List Char}
    (hFront : AllBlank front)
    (cs : List Char) :
    trimStart (front ++ cs) = trimStart cs := by
  induction front with
  | nil => rfl
  | cons c front ih =>
      rw [List.cons_append, trimStart, if_pos (hFront c List.mem_cons_self)]
      exact ih fun d hd => hFront d (List.mem_cons_of_mem c hd)

/- A text of blanks only is trimmed away. -/
theorem trimEnd_of_allBlank
    {cs : List Char}
    (hBlank : AllBlank cs) :
    trimEnd cs = [] := by
  induction cs with
  | nil => rfl
  | cons c cs ih =>
      rw [trimEnd, ih fun d hd => hBlank d (List.mem_cons_of_mem c hd)]
      exact if_pos (hBlank c List.mem_cons_self)

/- Blanks at the end are trimmed away. -/
theorem trimEnd_append
    {back : List Char}
    (hBack : AllBlank back)
    (cs : List Char) :
    trimEnd (cs ++ back) = trimEnd cs := by
  induction cs with
  | nil => exact trimEnd_of_allBlank hBack
  | cons c cs ih => rw [List.cons_append, trimEnd, trimEnd, ih]

/- Blanks at both ends are trimmed away. -/
theorem trim_append
    {front back : List Char}
    (hFront : AllBlank front)
    (hBack : AllBlank back)
    (cs : List Char) :
    trim (front ++ (cs ++ back)) = trim cs := by
  rw [trim, trimStart_append hFront, trim]
  induction cs with
  | nil =>
      have hNone := trimStart_append hBack []
      rw [List.append_nil] at hNone
      rw [List.nil_append, hNone]
  | cons c cs ih =>
      rw [List.cons_append, trimStart, trimStart]
      split
      · exact ih
      · rw [← List.cons_append, trimEnd_append hBack]

/- Trimming in front leaves the end of a text. -/
theorem trimStart_suffix (cs : List Char) :
    trimStart cs <:+ cs := by
  induction cs with
  | nil => exact List.suffix_refl []
  | cons c cs ih =>
      rw [trimStart]
      split
      · exact ih.trans (List.suffix_cons c cs)
      · exact List.suffix_refl _

/- Trimming at the end leaves the start of a text. -/
theorem trimEnd_isPrefix (cs : List Char) :
    trimEnd cs <+: cs := by
  induction cs with
  | nil => exact List.prefix_refl []
  | cons c cs ih =>
      rw [trimEnd]
      split
      · split
        · exact List.nil_prefix
        · exact ⟨cs, rfl⟩
      · exact List.prefix_cons_inj c |>.mpr ih

/- The last character of a text is white. -/
def EndsBlank (cs : List Char) : Prop :=
  ∃ c ∈ cs.getLast?, isBlank c = true

instance (cs : List Char) : Decidable (EndsBlank cs) :=
  decidable_of_iff (cs.getLast?.any isBlank = true) (by
    rw [Option.any_eq_true]
    rfl)

/- Trimming at the end leaves what does not end in a blank. -/
theorem trimEnd_eq_self_iff {cs : List Char} :
    trimEnd cs = cs ↔ ¬EndsBlank cs := by
  rcases List.eq_nil_or_concat' cs with rfl | ⟨before, d, rfl⟩
  · simp [trimEnd, EndsBlank]
  · cases hd : isBlank d with
    | false => simp [trimEnd_concat hd, EndsBlank, hd]
    | true =>
        -- what is left is no longer than the text in front
        have hTrim : trimEnd (before ++ [d]) = trimEnd before :=
          trimEnd_append (List.forall_mem_singleton.mpr hd) before
        have hShort := (trimEnd_isPrefix before).length_le
        have hChanged : trimEnd (before ++ [d]) ≠ before ++ [d] := by
          intro hSame
          rw [← hTrim, hSame, List.length_append,
            List.length_singleton] at hShort
          omega
        simp [hChanged, EndsBlank, hd]

/- A trimmed text has no other characters. -/
theorem mem_of_mem_trim
    {cs : List Char}
    {c : Char}
    (hc : c ∈ trim cs) :
    c ∈ cs :=
  (trimStart_suffix cs).subset ((trimEnd_isPrefix _).subset hc)

/- Nothing is left of a text exactly if it is blank. -/
theorem trim_eq_nil_iff {cs : List Char} :
    trim cs = [] ↔ AllBlank cs := by
  constructor
  · intro hNone
    have hKept : ∀ cs, trimStart cs = [] → AllBlank cs := by
      intro cs
      induction cs with
      | nil => simp [AllBlank]
      | cons c cs ih =>
          intro hNone
          rw [trimStart] at hNone
          split at hNone
          · rename_i hc
            intro d hd
            rcases List.mem_cons.mp hd with rfl | hd
            · exact hc
            · exact ih hNone d hd
          · cases hNone
    apply hKept
    rcases trimStart_cases cs with hStart | ⟨c, rest, hStart, hc⟩
    · exact hStart
    · rw [trim, hStart, trimEnd_cons hc] at hNone
      cases hNone
  · intro hBlank
    have hStart : trimStart cs = [] := by
      induction cs with
      | nil => rfl
      | cons c cs ih =>
          have hc : isBlank c = true := hBlank c List.mem_cons_self
          rw [trimStart, hc]
          exact ih fun d hd => hBlank d (List.mem_cons_of_mem _ hd)
    rw [trim, hStart]
    rfl

------------------------------------------------------------
-- Filters
------------------------------------------------------------

section Filters

variable {f : Char → Bool}

/- A filter that passes no blank does not see trimming. -/
theorem filter_trim
    (hBlank : ∀ c, isBlank c = true → f c = false)
    (cs : List Char) :
    (trim cs).filter f = cs.filter f := by
  have hStart : ∀ cs, (trimStart cs).filter f = cs.filter f := by
    intro cs
    induction cs with
    | nil => rfl
    | cons c cs ih =>
        rw [trimStart]
        split
        · rename_i hc
          rw [ih, List.filter_cons_of_neg]
          simp [hBlank c hc]
        · rfl
  have hEnd : ∀ cs, (trimEnd cs).filter f = cs.filter f := by
    intro cs
    induction cs with
    | nil => rfl
    | cons c cs ih =>
        rw [trimEnd]
        split
        · rename_i hNone
          rw [hNone] at ih
          split
          · rename_i hc
            rw [List.filter_cons_of_neg (by simp [hBlank c hc])]
            exact ih
          · rw [List.filter_cons, List.filter_cons, ← ih]
        · rw [List.filter_cons, List.filter_cons, ih]
  rw [trim, hEnd, hStart]

/- A filter that does not pass the separator sees the pieces. -/
theorem filter_joinWith
    {sep : Char}
    (hSep : f sep = false)
    (pieces : List (List Char)) :
    (joinWith [sep] pieces).filter f =
      pieces.flatMap fun piece => piece.filter f := by
  induction pieces with
  | nil => rfl
  | cons piece pieces ih =>
      cases pieces with
      | nil => simp [joinWith]
      | cons next pieces =>
          rw [joinWith, List.filter_append, List.filter_append, ih,
            List.flatMap_cons]
          · simp [hSep]
          · simp

end Filters

/- Pieces behind the first follow a separator. -/
theorem joinWith_cons_cons
    (sep : Char)
    (piece next : List Char)
    (pieces : List (List Char)) :
    joinWith [sep] (piece :: next :: pieces) =
      piece ++ sep :: joinWith [sep] (next :: pieces) := by
  rw [joinWith, List.append_assoc, List.singleton_append]
  simp

/- All characters of the pieces are in the joined text. -/
theorem mem_joinWith
    {sep c : Char}
    {pieces : List (List Char)}
    {piece : List Char}
    (hPiece : piece ∈ pieces)
    (hc : c ∈ piece) :
    c ∈ joinWith [sep] pieces := by
  induction pieces with
  | nil => cases hPiece
  | cons first pieces ih =>
      cases pieces with
      | nil =>
          rw [List.mem_singleton] at hPiece
          rw [joinWith, ← hPiece]
          exact hc
      | cons next pieces =>
          rw [joinWith_cons_cons, List.mem_append]
          rcases List.mem_cons.mp hPiece with rfl | hLater
          · exact .inl hc
          · exact .inr (List.mem_cons_of_mem _ (ih hLater))

end Text

end Gleaner
