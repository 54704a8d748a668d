import Gleaner.Proofs.Markup.Tags

/-
  The next token of written markup: a run of text, a start tag, an
  end tag or a comment.

  Main declarations:
    * `Markup.next_text`
    * `Markup.next_startTag`
    * `Markup.next_endTag`
    * `Markup.next_comment`
-/

namespace Gleaner

namespace Markup

------------------------------------------------------------
-- The Next Token
------------------------------------------------------------

/- Text reaches up to the next bracket. -/
theorem next_text
    {foreign : Bool}
    {text rest : List Char}
    (hText : '<' ∉ text)
    (hNone : text ≠ [])
    (hRest : ∀ c ∈ rest.head?, c = '<') :
    next .data foreign (text ++ rest) =
      (classify (decodeReferences false text), rest) := by
  have hIn : ∀ c ∈ text, (c != '<') = true := by
    intro c hc
    rw [bne_iff_ne]
    rintro rfl
    exact hText hc
  have hStop : ∀ c ∈ rest.head?, (c != '<') = false := by
    intro c hc
    rw [hRest c hc]
    rfl
  rw [next, Text.takeWhile_append_of_stop hIn hStop,
    Text.dropWhile_append_of_stop hIn hStop]
  intro more hStart
  cases text with
  | nil => exact hNone rfl
  | cons c text =>
      cases (List.cons.inj hStart).1
      exact hText List.mem_cons_self

/- No letter is one of the marks that may stand behind a bracket. -/
theorem ne_of_isLetter
    {c : Char}
    (hLetter : Text.isLetter c = true) :
    c ≠ '!' ∧ c ≠ '/' ∧ c ≠ '?' ∧ c ≠ '>' := by
  refine ⟨?_, ?_, ?_, ?_⟩ <;>
    (rintro rfl
     revert hLetter
     decide)

/- A letter behind a bracket starts a tag. -/
theorem next_letter
    {foreign : Bool}
    {c : Char}
    (hLetter : Text.isLetter c = true)
    (cs : List Char) :
    next .data foreign ('<' :: c :: cs) =
      (takeTag? (c :: cs)).elim ([], [])
        fun read => ([.startTag read.1], read.2) := by
  rcases ne_of_isLetter hLetter with ⟨hBang, hSlash, hQuery, _⟩
  rw [next, nextTag]
  · rw [if_pos hLetter]
    cases takeTag? (c :: cs) with
    | none => rfl
    | some read => rfl
  · rintro rfl
    exact hBang rfl
  · rintro rfl
    exact hSlash rfl
  · rintro rfl
    exact hQuery rfl

/- The name of a tag that can be written starts with a letter. -/
theorem exists_inner_eq
    {t : Tag}
    (hTag : t.isWritten = true) :
    ∃ c cs, t.inner = c :: cs ∧ Text.isLetter c = true := by
  simp only [Tag.isWritten, isTagName, Bool.and_eq_true] at hTag
  rcases hTag with ⟨⟨⟨_, _, hFirst⟩, _⟩, _⟩
  cases hName : t.name.toList with
  | nil => simp [hName] at hFirst
  | cons c cs =>
      refine ⟨c, cs ++ t.attributes.flatMap Attribute.write ++ ['>'],
        ?_, ?_⟩
      · rw [Tag.inner, hName]
        rfl
      · simpa [hName] using hFirst

/- A start tag is the next token. -/
theorem next_startTag
    {foreign : Bool}
    {t : Tag}
    (hTag : t.isWritten = true)
    (rest : List Char) :
    next .data foreign (t.writeStart ++ rest) =
      ([.startTag t.start], rest) := by
  rcases exists_inner_eq hTag with ⟨c, cs, hInner, hLetter⟩
  have hTake := takeTag?_write hTag rest
  rw [hInner] at hTake
  rw [writeStart_eq, hInner, List.cons_append, List.cons_append,
    next_letter hLetter, ← List.cons_append, hTake]
  rfl

/- An end tag is the next token. -/
theorem nextEndTag_write
    {name : String}
    (hName : isTagName name.toList = true)
    (rest : List Char) :
    nextEndTag (name.toList ++ '>' :: rest) = ([.endTag name], rest) := by
  have hTag : Tag.isWritten ⟨.html, name, []⟩ = true := by
    simp [Tag.isWritten, hName]
  have hText : name.toList ++ '>' :: rest =
      Tag.inner ⟨.html, name, []⟩ ++ rest := by
    simp [Tag.inner]
  rcases exists_inner_eq hTag with ⟨c, cs, hInner, hLetter⟩
  have hTake := takeTag?_write hTag rest
  rcases ne_of_isLetter hLetter with ⟨_, _, _, hEnd⟩
  rw [hText]
  rw [hInner, List.cons_append] at hTake ⊢
  rw [nextEndTag]
  · rw [if_pos hLetter, hTake]
    rfl
  · rintro rfl
    exact hEnd rfl

theorem next_endTag
    {foreign : Bool}
    {t : Tag}
    (hName : isTagName t.name.toList = true)
    (rest : List Char) :
    next .data foreign (t.writeEnd ++ rest) = ([.endTag t.name], rest) := by
  have hText : t.writeEnd ++ rest =
      '<' :: '/' :: (t.name.toList ++ '>' :: rest) := by
    simp [Tag.writeEnd]
  rw [hText]
  exact nextEndTag_write hName rest

/- A comment is the next token. -/
theorem next_comment
    {foreign : Bool}
    (cs : List Char) :
    next .data foreign ('<' :: '!' :: '-' :: '-' :: cs) =
      ([.comment (String.ofList (takeComment .start cs).1)],
        (takeComment .start cs).2) :=
  rfl

end Markup

end Gleaner
