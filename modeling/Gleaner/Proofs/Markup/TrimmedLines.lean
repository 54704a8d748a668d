import Gleaner.Proofs.Markup.Lines
import Mathlib.Data.List.Induction

/-
  Written pieces cut at line feeds and trimmed: which pieces the
  lines hold, and what a trimmed line shows on its own.

  Main declarations:
    * `Markup.Piece.staysInLine`
    * `Markup.cutAt_flatMap_write`
    * `Markup.looksLikeMarkup_iff`
    * `Markup.exists_trim_write`
    * `Markup.shows_line`
    * `Markup.trim_flatMap_escapeText_iff`
-/

namespace Gleaner

namespace Markup

------------------------------------------------------------
-- Lines of Pieces
------------------------------------------------------------

namespace Piece

/- The piece is a character of a text. -/
def isLetter : Piece → Bool
  | .letter _ => true
  | _ => false

/- The piece ends a line. -/
def isBreak : Piece → Bool
  | .letter c => c == '\n'
  | _ => false

/- No line ends inside the piece. -/
def staysInLine : Piece → Bool
  | .letter _ => true
  | p => !p.write.contains '\n'

/- Line feeds are pieces of their own. -/
theorem newline_not_mem_write
    {p : Piece}
    (hStays : p.staysInLine = true)
    (hBreak : p.isBreak = false) :
    '\n' ∉ p.write := by
  cases p with
  | letter c =>
      intro hIn
      rw [isBreak, beq_eq_false_iff_ne] at hBreak
      have hNames : ∀ entry ∈ writtenNames, '\n' ∉ '&' :: entry.1 := by
        decide
      rcases isEscape_escapeText c with ⟨_, hPlain⟩ | ⟨name, hName, hRef⟩
      · rw [write, hPlain, List.mem_singleton] at hIn
        exact hBreak hIn.symm
      · rw [write, hRef] at hIn
        exact hNames _ hName hIn
  | whole node => simpa [staysInLine] using hStays
  | opening t => simpa [staysInLine] using hStays
  | closing t => simpa [staysInLine] using hStays

/- A line ends at a character of a text. -/
theorem exists_letter_of_isBreak
    (p : Piece)
    (hBreak : p.isBreak = true) :
    ∃ c, p = .letter c := by
  cases p with
  | letter c => exact ⟨c, rfl⟩
  | whole node => cases hBreak
  | opening t => cases hBreak
  | closing t => cases hBreak

end Piece

variable {ps : List Piece}

/- The lines of written pieces are those of the pieces. -/
theorem cutAt_flatMap_write
    (hStay : ∀ p ∈ ps, p.staysInLine = true) :
    Text.cutAt (· == '\n') (ps.flatMap Piece.write) =
      (ps.splitOnP Piece.isBreak).map (·.flatMap Piece.write) := by
  induction ps with
  | nil => rfl
  | cons p ps ih =>
      have hRest := ih fun q hq => hStay q (List.mem_cons_of_mem p hq)
      rw [List.flatMap_cons, List.splitOnP_cons_eq_if_modifyHead]
      cases hBreak : p.isBreak with
      | true =>
          rcases p.exists_letter_of_isBreak hBreak with ⟨c, rfl⟩
          obtain rfl : c = '\n' := beq_iff_eq.mp hBreak
          rw [if_pos rfl, List.map_cons, ← hRest]
          rfl
      | false =>
          have hNone : ∀ c ∈ p.write, (c == '\n') = false := by
            intro c hc
            rw [beq_eq_false_iff_ne]
            rintro rfl
            exact Piece.newline_not_mem_write
              (hStay p List.mem_cons_self) hBreak hc
          rw [if_neg Bool.false_ne_true, Text.cutAt_append_front hNone,
            hRest]
          cases ps.splitOnP Piece.isBreak with
          | nil => rfl
          | cons line lines => rfl

/- The lines together show what the pieces show. -/
theorem flatMap_splitOnP
    {β : Type}
    {f : Piece → List β}
    (hBreak : ∀ p, p.isBreak = true → f p = []) :
    (ps.splitOnP Piece.isBreak).flatMap (·.flatMap f) = ps.flatMap f := by
  induction ps with
  | nil => rfl
  | cons p ps ih =>
      rw [List.splitOnP_cons_eq_if_modifyHead, List.flatMap_cons, ← ih]
      split
      · rename_i hp
        rw [hBreak p hp]
        rfl
      · have hSome := List.splitOnP_ne_nil Piece.isBreak ps
        cases hLines : ps.splitOnP Piece.isBreak with
        | nil => exact absurd hLines hSome
        | cons line lines => simp

------------------------------------------------------------
-- Brackets
------------------------------------------------------------

/- A text is not taken as a whole. -/
def Piece.IsProper (p : Piece) : Prop :=
  ∀ s, p ≠ .whole (.text s)

theorem Fits.isProper
    {above : List Tag}
    (h : Fits above ps) :
    ∀ p ∈ ps, p.IsProper := by
  induction ps generalizing above with
  | nil => simp
  | cons p ps ih =>
      intro q hq
      cases p with
      | letter c =>
          rcases List.mem_cons.mp hq with rfl | hq
          · simp [Piece.IsProper]
          · exact ih h q hq
      | whole node =>
          rcases List.mem_cons.mp hq with rfl | hq
          · intro s hs
            exact h.1 s (Piece.whole.inj hs)
          · exact ih h.2.2 q hq
      | opening t =>
          rcases List.mem_cons.mp hq with rfl | hq
          · simp [Piece.IsProper]
          · exact ih h.2.2.2.2 q hq
      | closing t =>
          rcases List.mem_cons.mp hq with rfl | hq
          · simp [Piece.IsProper]
          · cases above with
            | nil => exact ih h.2.2 q hq
            | cons inner above => exact ih h.2.2.2 q hq

/- A piece is a character of a text, or is written between brackets. -/
theorem Piece.exists_write_eq
    {p : Piece}
    (hProper : p.IsProper)
    (hKind : p.isLetter = false) :
    ∃ cs, p.write = '<' :: (cs ++ ['>']) := by
  cases p with
  | letter c => cases hKind
  | whole node =>
      exact Markup.exists_write_eq fun s hs => hProper s (hs ▸ rfl)
  | opening t => exact ⟨_, rfl⟩
  | closing t => exact ⟨'/' :: t.name.toList, rfl⟩

/- Only characters of a text are written without brackets. -/
theorem Piece.mem_write_iff
    {p : Piece}
    (hProper : p.IsProper)
    {d : Char}
    (hBracket : d = '<' ∨ d = '>') :
    d ∈ p.write ↔ p.isLetter = false := by
  cases hKind : p.isLetter with
  | true =>
      cases p with
      | letter c =>
          have hNone := not_mem_flatMap_escapeText hBracket [c]
          rw [List.flatMap_singleton] at hNone
          simpa [write] using hNone
      | whole node => cases hKind
      | opening t => cases hKind
      | closing t => cases hKind
  | false =>
      rcases Piece.exists_write_eq hProper hKind with ⟨cs, hWrite⟩
      rcases hBracket with rfl | rfl <;> simp [hWrite]

/- A line is taken for markup if there is more than text in it. -/
theorem looksLikeMarkup_iff
    (hProper : ∀ p ∈ ps, p.IsProper) :
    looksLikeMarkup (String.ofList (ps.flatMap Piece.write)) = true ↔
      ∃ p ∈ ps, p.isLetter = false := by
  have hBracket : ∀ {d : Char}, d = '<' ∨ d = '>' →
      (d ∈ ps.flatMap Piece.write ↔ ∃ p ∈ ps, p.isLetter = false) := by
    intro d hd
    rw [List.mem_flatMap]
    constructor
    · rintro ⟨p, hp, hIn⟩
      exact ⟨p, hp, (p.mem_write_iff (hProper p hp) hd).mp hIn⟩
    · rintro ⟨p, hp, hKind⟩
      exact ⟨p, hp, (p.mem_write_iff (hProper p hp) hd).mpr hKind⟩
  rw [looksLikeMarkup, String.toList_ofList, Bool.and_eq_true,
    List.contains_iff_mem, List.contains_iff_mem, hBracket (.inl rfl),
    hBracket (.inr rfl), and_self]

------------------------------------------------------------
-- Trimmed Lines
------------------------------------------------------------

/- The names of references end in a semicolon. -/
theorem exists_concat_of_mem_writtenNames
    {name : List Char}
    {c : Char}
    (hName : (name, c) ∈ writtenNames) :
    ∃ ds, name = ds ++ [';'] := by
  have hAll : ∀ entry ∈ writtenNames,
      entry.1 = entry.1.dropLast ++ [';'] := by
    decide
  exact ⟨_, hAll _ hName⟩

/- A piece is a blank that is written as it is, or has no blank ends. -/
theorem Piece.write_cases
    {p : Piece}
    (hProper : p.IsProper) :
    (∃ c, p = .letter c ∧ Text.isBlank c = true ∧ p.write = [c]) ∨
      ∃ c cs d ds, p.write = c :: cs ∧ p.write = ds ++ [d] ∧
        Text.isBlank c = false ∧ Text.isBlank d = false := by
  have hBrackets (hKind : p.isLetter = false) :
      ∃ c cs d ds, p.write = c :: cs ∧ p.write = ds ++ [d] ∧
        Text.isBlank c = false ∧ Text.isBlank d = false := by
    rcases Piece.exists_write_eq hProper hKind with ⟨cs, hWrite⟩
    exact ⟨'<', cs ++ ['>'], '>', '<' :: cs, hWrite, hWrite,
      by decide, by decide⟩
  cases p with
  | letter c =>
      rcases isEscape_escapeText c with ⟨hc, hPlain⟩ | ⟨name, hName, hRef⟩
      · rw [Piece.write, hPlain]
        cases hBlank : Text.isBlank c with
        | true => exact .inl ⟨c, rfl, hBlank, rfl⟩
        | false => exact .inr ⟨c, [], c, [], rfl, rfl, hBlank, hBlank⟩
      · rcases exists_concat_of_mem_writtenNames hName with ⟨ds, rfl⟩
        refine .inr ⟨'&', ds ++ [';'], ';', '&' :: ds, ?_, ?_, by decide,
          by decide⟩
        · rw [Piece.write, hRef]
        · rw [Piece.write, hRef]
          rfl
  | whole node => exact .inr (hBrackets rfl)
  | opening t => exact .inr (hBrackets rfl)
  | closing t => exact .inr (hBrackets rfl)

/- The blanks in front of a line are characters of a text. -/
theorem exists_trimStart_write
    (hProper : ∀ p ∈ ps, p.IsProper) :
    ∃ front rest, ps = front.map .letter ++ rest ∧ Text.AllBlank front ∧
      Text.trimStart (ps.flatMap Piece.write) =
        rest.flatMap Piece.write := by
  induction ps with
  | nil => exact ⟨[], [], rfl, by simp [Text.AllBlank], rfl⟩
  | cons p ps ih =>
      rcases p.write_cases (hProper p List.mem_cons_self) with
        ⟨c, rfl, hBlank, hWrite⟩ | ⟨c, cs, _, _, hWrite, _, hBlank, _⟩
      · rcases ih fun q hq => hProper q (List.mem_cons_of_mem _ hq) with
          ⟨front, rest, rfl, hFront, hTrim⟩
        refine ⟨c :: front, rest, rfl, ?_, ?_⟩
        · simpa [Text.AllBlank, hBlank] using hFront
        · rw [List.flatMap_cons, hWrite, Text.trimStart_append
            (by simpa [Text.AllBlank] using hBlank), hTrim]
      · refine ⟨[], p :: ps, rfl, by simp [Text.AllBlank], ?_⟩
        rw [List.flatMap_cons, hWrite, List.cons_append,
          Text.trimStart_cons hBlank]

/- So are the blanks at its end. -/
theorem exists_trimEnd_write
    (hProper : ∀ p ∈ ps, p.IsProper) :
    ∃ rest back, ps = rest ++ back.map .letter ∧ Text.AllBlank back ∧
      Text.trimEnd (ps.flatMap Piece.write) = rest.flatMap Piece.write := by
  induction ps using List.reverseRecOn with
  | nil => exact ⟨[], [], rfl, by simp [Text.AllBlank], rfl⟩
  | append_singleton ps p ih =>
      rcases p.write_cases (hProper p (by simp)) with
        ⟨c, rfl, hBlank, hWrite⟩ | ⟨_, _, d, ds, _, hWrite, _, hBlank⟩
      · rcases ih fun q hq => hProper q (List.mem_append_left _ hq) with
          ⟨rest, back, rfl, hBack, hTrim⟩
        refine ⟨rest, back ++ [c], by simp, ?_, ?_⟩
        · intro d hd
          rcases List.mem_append.mp hd with hd | hd
          · exact hBack d hd
          · rw [List.mem_singleton.mp hd]
            exact hBlank
        · rw [List.flatMap_append, List.flatMap_singleton, hWrite,
            Text.trimEnd_append (by simpa [Text.AllBlank] using hBlank),
            hTrim]
      · refine ⟨ps ++ [p], [], by simp, by simp [Text.AllBlank], ?_⟩
        rw [List.flatMap_append, List.flatMap_singleton, hWrite,
          ← List.append_assoc, Text.trimEnd_concat hBlank]

/- A trimmed line is a line of fewer characters of texts. -/
theorem exists_trim_write
    (hProper : ∀ p ∈ ps, p.IsProper) :
    ∃ front rest back,
      ps = front.map .letter ++ (rest ++ back.map .letter) ∧
      Text.AllBlank front ∧ Text.AllBlank back ∧
      Text.trim (ps.flatMap Piece.write) = rest.flatMap Piece.write := by
  rcases exists_trimStart_write hProper with
    ⟨front, rest, rfl, hFront, hStart⟩
  rcases exists_trimEnd_write fun p hp =>
      hProper p (List.mem_append_right _ hp) with
    ⟨rest, back, rfl, hBack, hEnd⟩
  exact ⟨front, rest, back, rfl, hFront, hBack,
    by rw [Text.trim, hStart, hEnd]⟩

theorem children_element (d : Document) : d.element.children = d.children :=
  rfl

/- The media and the text in a trimmed line are those of its pieces. -/
theorem shows_line
    (hFits : Fits [] ps)
    (hSteady : IsSteady (ps.flatMap Piece.write))
    (hLine : '\n' ∉ ps.flatMap Piece.write) :
    mediaIn (String.ofList (Text.trim (ps.flatMap Piece.write))) =
        ps.flatMap Piece.media ∧
      ((∃ p ∈ ps, p.isLetter = false) →
        Text.trim (renderedText (String.ofList
            (Text.trim (ps.flatMap Piece.write)))).toList =
          Text.trim (ps.flatMap Piece.text)) := by
  rcases exists_trim_write hFits.isProper with
    ⟨front, rest, back, rfl, hFront, hBack, hTrim⟩
  have hRest : Fits [] rest :=
    ((Fits.letters_append front).mp hFits).of_append
  have hSubset : rest.flatMap Piece.write ⊆
      (front.map Piece.letter ++
        (rest ++ back.map Piece.letter)).flatMap Piece.write := by
    simp [List.flatMap_append]
  have hShows := shows_parseFragment hRest (hSteady.of_subset hSubset)
    fun hIn => hLine (hSubset hIn)
  have hLooks := looksLikeMarkup_iff hRest.isProper
  rw [hTrim]
  simp only [List.flatMap_append, Piece.flatMap_media_letters,
    Piece.flatMap_text_letters, List.nil_append, List.append_nil,
    Text.trim_append hFront hBack]
  constructor
  · rw [mediaIn]
    split
    · rw [inlineMedia_eq, children_element]
      exact hShows.media
    · rename_i hPlain
      rw [hLooks, not_exists] at hPlain
      symm
      rw [List.flatMap_eq_nil_iff]
      intro p hp
      cases p with
      | letter c => rfl
      | whole node => exact absurd ⟨hp, rfl⟩ (hPlain _)
      | opening t => rfl
      | closing t => rfl
  · rintro ⟨p, hp, hKind⟩
    have hIn : p ∈ rest := by
      rcases List.mem_append.mp hp with hp | hp
      · rcases List.mem_map.mp hp with ⟨c, _, rfl⟩
        cases hKind
      · rcases List.mem_append.mp hp with hp | hp
        · exact hp
        · rcases List.mem_map.mp hp with ⟨c, _, rfl⟩
          cases hKind
    rw [renderedText, if_pos (hLooks.mpr ⟨p, hIn, hKind⟩), Element.text,
      String.toList_ofList, children_element, hShows.text]

------------------------------------------------------------
-- Texts Alone
------------------------------------------------------------

/- A node that is no text has pieces that are no characters. -/
theorem exists_piece_of_not_text
    {nodes : List Node}
    {node : Node}
    (hIn : node ∈ nodes)
    (hNode : ∀ s, node ≠ .text s) :
    ∃ p ∈ Node.piecesAll nodes, p.isLetter = false := by
  induction nodes with
  | nil => cases hIn
  | cons first rest ih =>
      rw [Node.piecesAll]
      rcases List.mem_cons.mp hIn with rfl | hIn
      · cases node with
        | text s => exact absurd rfl (hNode s)
        | comment s =>
            exact ⟨.whole (.comment s), by simp [Node.pieces], rfl⟩
        | element t children =>
            rw [Node.pieces]
            split
            · exact ⟨.whole (.element t children), by simp, rfl⟩
            · exact ⟨.opening t, by simp, rfl⟩
      · rcases ih hIn with ⟨p, hp, hKind⟩
        exact ⟨p, List.mem_append_right _ hp, hKind⟩

/- Texts alone are written as their characters are. -/
theorem innerMarkup_of_texts
    {nodes : List Node}
    (hTexts : ∀ node ∈ nodes, ∃ s, node = .text s) :
    innerMarkup nodes =
      (Node.textContentAll nodes).flatMap escapeText := by
  induction nodes with
  | nil => rfl
  | cons node nodes ih =>
      rcases hTexts node List.mem_cons_self with ⟨s, rfl⟩
      have hRest := ih fun other hOther =>
        hTexts other (List.mem_cons_of_mem _ hOther)
      rw [innerMarkup] at hRest ⊢
      rw [Node.writeAll, hRest, Node.textContentAll, List.flatMap_append]
      rfl

/- References are written with one semicolon more than texts have. -/
theorem length_filter_escapeText (c : Char) :
    ((escapeText c).filter (· == ';')).length =
      ([c].filter (· == ';')).length +
        if escapeText c = [c] then 0 else 1 := by
  have hNames : ∀ entry ∈ writtenNames,
      (('&' :: entry.1).filter (· == ';')).length = 1 ∧
        [entry.2].filter (· == ';') = [] ∧ '&' :: entry.1 ≠ [entry.2] := by
    decide
  rcases isEscape_escapeText c with ⟨_, hPlain⟩ | ⟨name, hName, hRef⟩
  · rw [hPlain, if_pos rfl, Nat.add_zero]
  · rcases hNames _ hName with ⟨hOne, hNone, hOther⟩
    rw [hRef, hOne, hNone, if_neg hOther]
    rfl

/- The semicolons of a written text count the references in it. -/
theorem length_filter_flatMap_escapeText (cs : List Char) :
    ((cs.flatMap escapeText).filter (· == ';')).length =
      (cs.filter (· == ';')).length +
        (cs.filter fun c => escapeText c ≠ [c]).length := by
  induction cs with
  | nil => rfl
  | cons c cs ih =>
      have hHere := length_filter_escapeText c
      have hMarks :
          ((c :: cs).filter (· == ';')).length =
            ([c].filter (· == ';')).length +
              (cs.filter (· == ';')).length := by
        rw [← List.length_append, ← List.filter_append,
          List.singleton_append]
      have hReferences :
          ((c :: cs).filter fun c => escapeText c ≠ [c]).length =
            (if escapeText c = [c] then 0 else 1) +
              (cs.filter fun c => escapeText c ≠ [c]).length := by
        rw [List.filter_cons]
        by_cases hPlain : escapeText c = [c]
        · rw [if_pos hPlain, if_neg (by simpa using hPlain), Nat.zero_add]
        · rw [if_neg hPlain, if_pos (by simpa using hPlain),
            List.length_cons, Nat.add_comm]
      rw [List.flatMap_cons, List.filter_append, List.length_append, ih,
        hHere, hMarks, hReferences]
      omega

/- A text without characters that are referred to is written as it is. -/
theorem flatMap_escapeText_eq_self
    {cs : List Char}
    (hPlain : ∀ c ∈ cs, escapeText c = [c]) :
    cs.flatMap escapeText = cs := by
  rw [List.flatMap_congr hPlain, List.flatMap_singleton']

/-
  A written text is the text only if nothing in it is a reference:
  trimming takes no semicolon away, and every reference adds one.
-/
theorem trim_flatMap_escapeText_iff (cs : List Char) :
    Text.trim (cs.flatMap escapeText) = Text.trim cs ↔
      ∀ c ∈ cs, escapeText c = [c] := by
  have hBlank : ∀ c, Text.isBlank c = true → (c == ';') = false := by
    intro c hc
    rw [beq_eq_false_iff_ne]
    rintro rfl
    revert hc
    decide
  constructor
  · intro hSame c hc
    by_contra hRef
    have hMarks :
        (cs.flatMap escapeText).filter (· == ';') =
          cs.filter (· == ';') := by
      rw [← Text.filter_trim hBlank, hSame, Text.filter_trim hBlank]
    have hLengths := length_filter_flatMap_escapeText cs
    rw [hMarks] at hLengths
    have hPositive : 0 <
        (cs.filter fun c => escapeText c ≠ [c]).length :=
      List.length_pos_of_mem (List.mem_filter.mpr ⟨hc, by simpa using hRef⟩)
    omega
  · intro hPlain
    rw [flatMap_escapeText_eq_self hPlain]

end Markup

end Gleaner
