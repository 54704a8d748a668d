import Gleaner.Proofs.Text.Trimming
import Mathlib.Data.List.Forall2

/-
  Texts that are cut into pieces, and pieces that are joined:
  what stands in the pieces, and when one undoes the other.

  Main declarations:
    * `Text.cutAt_eq_singleton`
    * `Text.cutAt_append_cons`
    * `Text.cutAt_append`
    * `Text.cutAt_joinWith`
    * `Text.not_isCut_of_mem_cutAt`
    * `Text.mem_of_mem_cutAt`
    * `Text.mem_joinWith_cases`
    * `Text.takeWhile_append_of_stop`
    * `Text.dropWhile_append_of_stop`
    * `Text.startsWith_iff`
    * `forall₂_of_mapM_eq_some`
    * `mapM_eq_some_of_forall₂`
-/

namespace Gleaner

namespace Text

------------------------------------------------------------
-- Cutting
------------------------------------------------------------

variable {isCut : Char → Bool}

/- A text without a cut is one piece. -/
theorem cutAt_eq_singleton
    {cs : List Char}
    (hNone : ∀ c ∈ cs, isCut c = false) :
    cutAt isCut cs = [cs] := by
  induction cs with
  | nil => rfl
  | cons c cs ih =>
      have hHead : isCut c = false := hNone c List.mem_cons_self
      have hTail :=
        ih fun d hd => hNone d (List.mem_cons_of_mem _ hd)
      simp [cutAt, hHead, hTail]

/- There is always a piece. -/
theorem cutAt_ne_nil (isCut : Char → Bool) (cs : List Char) :
    cutAt isCut cs ≠ [] := by
  cases cs with
  | nil => simp [cutAt]
  | cons c cs =>
      rw [cutAt]
      split
      · simp
      · split <;> simp

/- A character that is no cut belongs to the first piece. -/
theorem cutAt_cons_of_not_isCut
    {c : Char}
    (hc : isCut c = false)
    (cs : List Char) :
    ∃ piece pieces,
      cutAt isCut cs = piece :: pieces ∧
      cutAt isCut (c :: cs) = (c :: piece) :: pieces := by
  cases hCut : cutAt isCut cs with
  | nil => exact absurd hCut (cutAt_ne_nil isCut cs)
  | cons piece pieces => exact ⟨piece, pieces, rfl, by simp [cutAt, hc, hCut]⟩

/- The first cut ends the first piece. -/
theorem cutAt_append_cons
    {front : List Char}
    {d : Char}
    (hNone : ∀ c ∈ front, isCut c = false)
    (hd : isCut d = true)
    (back : List Char) :
    cutAt isCut (front ++ d :: back) = front :: cutAt isCut back := by
  induction front with
  | nil => simp [cutAt, hd]
  | cons c front ih =>
      have hHead : isCut c = false := hNone c List.mem_cons_self
      have hTail :=
        ih fun e he => hNone e (List.mem_cons_of_mem _ he)
      simp [cutAt, hHead, hTail]

/- What no cut is in is put in front of the first piece. -/
theorem cutAt_append_front
    {front : List Char}
    (hNone : ∀ c ∈ front, isCut c = false)
    (cs : List Char) :
    cutAt isCut (front ++ cs) =
      (cutAt isCut cs).modifyHead (front ++ ·) := by
  induction front with
  | nil =>
      rcases List.exists_cons_of_ne_nil (cutAt_ne_nil isCut cs) with
        ⟨piece, pieces, hCut⟩
      rw [List.nil_append, hCut]
      rfl
  | cons c front ih =>
      rw [List.forall_mem_cons] at hNone
      rcases List.exists_cons_of_ne_nil (cutAt_ne_nil isCut cs) with
        ⟨piece, pieces, hCut⟩
      rw [List.cons_append, cutAt, hNone.1, if_neg Bool.false_ne_true,
        ih hNone.2, hCut]
      rfl

/- A cut parts the pieces in front of it from those behind it. -/
theorem cutAt_append
    {d : Char}
    (hd : isCut d = true)
    (front back : List Char) :
    cutAt isCut (front ++ d :: back) =
      cutAt isCut front ++ cutAt isCut back := by
  induction front with
  | nil => simp [cutAt, hd]
  | cons c front ih =>
      cases hc : isCut c with
      | true => simp [cutAt, hc, ih]
      | false =>
          rcases cutAt_cons_of_not_isCut hc front with
            ⟨piece, pieces, hFront, hCons⟩
          simp [cutAt, hc, ih, hFront]

/- The pieces of a text hold the characters that are no cuts. -/
theorem mem_cutAt_cases
    {cs piece : List Char}
    {c : Char}
    (hPiece : piece ∈ cutAt isCut cs)
    (hc : c ∈ piece) :
    isCut c = false ∧ c ∈ cs := by
  induction cs generalizing piece with
  | nil =>
      rw [cutAt, List.mem_singleton] at hPiece
      rw [hPiece] at hc
      cases hc
  | cons d cs ih =>
      cases hd : isCut d with
      | true =>
          rw [cutAt, if_pos hd] at hPiece
          rcases List.mem_cons.mp hPiece with rfl | hPiece
          · cases hc
          · exact (ih hPiece hc).imp_right (List.mem_cons_of_mem d)
      | false =>
          rcases cutAt_cons_of_not_isCut hd cs with
            ⟨first, pieces, hCut, hCons⟩
          rw [hCons] at hPiece
          rw [hCut] at ih
          rcases List.mem_cons.mp hPiece with rfl | hLater
          · rcases List.mem_cons.mp hc with rfl | hc
            · exact ⟨hd, List.mem_cons_self⟩
            · exact (ih List.mem_cons_self hc).imp_right
                (List.mem_cons_of_mem d)
          · exact (ih (List.mem_cons_of_mem _ hLater) hc).imp_right
              (List.mem_cons_of_mem d)

/- There is no cut in a piece. -/
theorem not_isCut_of_mem_cutAt
    {cs piece : List Char}
    {c : Char}
    (hPiece : piece ∈ cutAt isCut cs)
    (hc : c ∈ piece) :
    isCut c = false :=
  (mem_cutAt_cases hPiece hc).1

/- The pieces of a text hold characters of the text. -/
theorem mem_of_mem_cutAt
    {cs piece : List Char}
    {c : Char}
    (hPiece : piece ∈ cutAt isCut cs)
    (hc : c ∈ piece) :
    c ∈ cs :=
  (mem_cutAt_cases hPiece hc).2

------------------------------------------------------------
-- Joining
------------------------------------------------------------

/- The pieces of a text make up the text. -/
theorem joinWith_cutAt (sep : Char) (cs : List Char) :
    joinWith [sep] (cutAt (· == sep) cs) = cs := by
  induction cs with
  | nil => rfl
  | cons c cs ih =>
      rcases List.exists_cons_of_ne_nil (cutAt_ne_nil (· == sep) cs) with
        ⟨piece, pieces, hCut⟩
      rw [hCut] at ih
      rw [cutAt, hCut]
      split
      · rename_i hc
        rw [joinWith_cons_cons, ih, beq_iff_eq.mp hc]
        rfl
      · cases pieces with
        | nil => rw [← ih]; rfl
        | cons next pieces =>
            rw [joinWith_cons_cons] at ih
            dsimp only
            rw [joinWith_cons_cons, ← ih]
            rfl

/- A joined text holds separators and the characters of the pieces. -/
theorem mem_joinWith_cases
    {sep c : Char}
    {pieces : List (List Char)}
    (hc : c ∈ joinWith [sep] pieces) :
    c = sep ∨ ∃ piece ∈ pieces, c ∈ piece := by
  induction pieces with
  | nil => cases hc
  | cons first pieces ih =>
      cases pieces with
      | nil => exact .inr ⟨first, List.mem_cons_self, hc⟩
      | cons next pieces =>
          rw [joinWith_cons_cons, List.mem_append, List.mem_cons] at hc
          rcases hc with hFirst | rfl | hRest
          · exact .inr ⟨first, List.mem_cons_self, hFirst⟩
          · exact .inl rfl
          · rcases ih hRest with rfl | ⟨piece, hPiece, hMem⟩
            · exact .inl rfl
            · exact .inr ⟨piece, List.mem_cons_of_mem _ hPiece, hMem⟩

/- A start of the first piece is a start of the joined text. -/
theorem joinWith_append_cons
    (sep : Char)
    (front piece : List Char)
    (pieces : List (List Char)) :
    joinWith [sep] ((front ++ piece) :: pieces) =
      front ++ joinWith [sep] (piece :: pieces) := by
  cases pieces with
  | nil => rfl
  | cons next pieces =>
      rw [joinWith_cons_cons, joinWith_cons_cons, List.append_assoc]

/- Pieces without separators are got back from the joined text. -/
theorem cutAt_joinWith
    {sep : Char}
    {pieces : List (List Char)}
    (hSome : pieces ≠ [])
    (hNone : ∀ piece ∈ pieces, sep ∉ piece) :
    cutAt (· == sep) (joinWith [sep] pieces) = pieces := by
  have hApart : ∀ piece ∈ pieces, ∀ c ∈ piece, (c == sep) = false := by
    intro piece hPiece c hc
    rw [beq_eq_false_iff_ne]
    rintro rfl
    exact hNone piece hPiece hc
  induction pieces with
  | nil => exact absurd rfl hSome
  | cons first pieces ih =>
      have hFirst := hApart first List.mem_cons_self
      cases pieces with
      | nil =>
          rw [joinWith]
          exact cutAt_eq_singleton hFirst
      | cons next pieces =>
          rw [joinWith_cons_cons, cutAt_append_cons hFirst
            (beq_self_eq_true sep),
            ih (List.cons_ne_nil _ _)
              (fun piece hPiece =>
                hNone piece (List.mem_cons_of_mem _ hPiece))
              (fun piece hPiece =>
                hApart piece (List.mem_cons_of_mem _ hPiece))]

------------------------------------------------------------
-- Starts
------------------------------------------------------------

section

variable {isIn : Char → Bool}
variable {start rest : List Char}

/- A start is taken up to where it stops. -/
theorem takeWhile_append_of_stop
    (hStart : ∀ c ∈ start, isIn c = true)
    (hStop : ∀ c ∈ rest.head?, isIn c = false) :
    (start ++ rest).takeWhile isIn = start := by
  rw [List.takeWhile_append_of_pos hStart]
  cases rest with
  | nil => rw [List.takeWhile_nil, List.append_nil]
  | cons c rest =>
      rw [List.takeWhile_cons_of_neg (ne_true_of_eq_false (hStop c rfl)),
        List.append_nil]

/- A start is dropped up to where it stops. -/
theorem dropWhile_append_of_stop
    (hStart : ∀ c ∈ start, isIn c = true)
    (hStop : ∀ c ∈ rest.head?, isIn c = false) :
    (start ++ rest).dropWhile isIn = rest := by
  rw [List.dropWhile_append_of_pos hStart]
  cases rest with
  | nil => rfl
  | cons c rest =>
      rw [List.dropWhile_cons_of_neg (ne_true_of_eq_false (hStop c rfl))]

end

------------------------------------------------------------
-- Prefixes
------------------------------------------------------------

/- A prefix can be dropped from what it stands in front of. -/
theorem dropPrefix?_append (pre cs : List Char) :
    dropPrefix? pre (pre ++ cs) = some cs := by
  induction pre with
  | nil => rfl
  | cons p pre ih => rw [List.cons_append, dropPrefix?,
      if_pos (beq_self_eq_true p), ih]

/- What is left of a text behind a prefix. -/
theorem eq_append_of_dropPrefix?
    {pre cs rest : List Char}
    (hDrop : dropPrefix? pre cs = some rest) :
    cs = pre ++ rest := by
  induction pre generalizing cs with
  | nil =>
      cases hDrop
      rfl
  | cons p pre ih =>
      cases cs with
      | nil => cases hDrop
      | cons c cs =>
          rw [dropPrefix?] at hDrop
          split at hDrop
          · rename_i hSame
            rw [beq_iff_eq.mp hSame, ih hDrop, List.cons_append]
          · cases hDrop

/- A text starts with its prefixes. -/
theorem startsWith_iff
    {pre cs : List Char} :
    startsWith pre cs = true ↔ pre <+: cs := by
  rw [startsWith]
  constructor
  · intro hStart
    rcases Option.isSome_iff_exists.mp hStart with ⟨rest, hRest⟩
    exact ⟨rest, (eq_append_of_dropPrefix? hRest).symm⟩
  · rintro ⟨rest, rfl⟩
    rw [dropPrefix?_append]
    rfl

/- A prefix cannot be dropped from a text that does not have it. -/
theorem dropPrefix?_eq_none_iff
    {pre cs : List Char} :
    dropPrefix? pre cs = none ↔ ¬ pre <+: cs := by
  rw [← startsWith_iff, startsWith, Bool.not_eq_true,
    Option.isSome_eq_false_iff, Option.isNone_iff_eq_none]

end Text

------------------------------------------------------------
-- Reading Pieces
------------------------------------------------------------

section

variable {α β : Type}
variable {read : α → Option β}

/- Items are read one by one. -/
theorem forall₂_of_mapM_eq_some
    {items : List α}
    {values : List β}
    (hRead : items.mapM read = some values) :
    List.Forall₂ (fun item value => read item = some value)
      items values := by
  induction items generalizing values with
  | nil =>
      cases hRead
      exact .nil
  | cons item items ih =>
      rw [List.mapM_cons] at hRead
      rcases Option.bind_eq_some_iff.mp hRead with
        ⟨value, hValue, hRest⟩
      rcases Option.bind_eq_some_iff.mp hRest with
        ⟨rest, hItems, hAll⟩
      cases hAll
      exact .cons hValue (ih hItems)

theorem mapM_eq_some_of_forall₂
    {items : List α}
    {values : List β}
    (hRead :
      List.Forall₂ (fun item value => read item = some value)
        items values) :
    items.mapM read = some values := by
  induction hRead with
  | nil => rfl
  | cons hValue _ ih =>
      rw [List.mapM_cons, hValue, ih]
      rfl

end

end Gleaner
