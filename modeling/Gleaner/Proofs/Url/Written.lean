import Gleaner.Proofs.Url.Schemes
import Gleaner.Proofs.Url.Settled

/-
  The texts of URLs, part by part.  That of a URL that was read
  holds no controls, and neither cleaning nor trimming changes it.

  Main declarations:
    * `Url.forall_mem_front`
    * `Url.forall_mem_ending`
    * `Url.IsSettled.isControl_of_mem_write`
    * `Url.IsSettled.clean_write`
    * `Url.IsSettled.trim_write`
    * `Url.IsSettled.read_write`
-/

namespace Gleaner

namespace Url

variable {asked : Bool}
variable {scheme : String}
variable {u : Url}
variable {c : Char}

------------------------------------------------------------
-- Parts of Texts
------------------------------------------------------------

theorem write_eq_ending (u : Url) :
    u.write = u.front ++ u.path ++ u.ending := by
  simp [write, ending]

section Characters

variable {P : Char → Prop}

/- What holds of the parts of an authority holds of its text. -/
theorem Authority.forall_mem_server
    {a : Authority}
    (hMarks : P '@' ∧ P ':')
    (hUser : ∀ c ∈ a.user.toList, P c)
    (hHost : ∀ h ∈ a.host, ∀ c ∈ h.write, P c)
    (hPort : ∀ c, Text.isDigit c = true → P c) :
    ∀ c ∈ a.server, P c := by
  rw [server, seat, List.forall_mem_append, List.forall_mem_append]
  refine ⟨?_, ?_, ?_⟩
  · split
    · exact List.forall_mem_nil _
    · rw [List.forall_mem_append, List.forall_mem_singleton]
      exact ⟨hUser, hMarks.1⟩
  · cases h : a.host with
    | none => exact List.forall_mem_nil _
    | some host => exact hHost host h
  · cases a.port with
    | none => exact List.forall_mem_nil _
    | some p =>
        rw [Option.elim_some, List.forall_mem_cons]
        exact ⟨hMarks.2, fun c hc => hPort c (Text.isDigit_of_mem_showNat hc)⟩

/- What holds of a scheme and a server holds of a front. -/
theorem forall_mem_front
    (hMarks : P ':' ∧ P '/' ∧ P '.')
    (hScheme : ∀ c ∈ u.scheme.toList, P c)
    (hServer : ∀ a ∈ u.authority, ∀ c ∈ a.server, P c) :
    ∀ c ∈ u.front, P c := by
  rcases hMarks with ⟨hColon, hSlash, hDot⟩
  rw [front, List.forall_mem_append, List.forall_mem_append,
    List.forall_mem_singleton]
  refine ⟨⟨hScheme, hColon⟩, ?_⟩
  cases h : u.authority with
  | some a =>
      dsimp only
      rw [a.write_eq_server, List.forall_mem_cons, List.forall_mem_cons]
      exact ⟨hSlash, hSlash, hServer a h⟩
  | none =>
      dsimp only
      split
      · rw [List.forall_mem_cons, List.forall_mem_singleton]
        exact ⟨hSlash, hDot⟩
      · exact List.forall_mem_nil _

/- What holds of a query and a fragment holds of an ending. -/
theorem forall_mem_ending
    (hQuery : ∀ q ∈ u.query, ∀ c ∈ '?' :: q, P c)
    (hFragment : ∀ f ∈ u.fragment, ∀ c ∈ '#' :: f, P c) :
    ∀ c ∈ u.ending, P c := by
  rw [ending, List.forall_mem_append]
  constructor
  · cases h : u.query with
    | none => exact List.forall_mem_nil _
    | some q => exact hQuery q h
  · cases h : u.fragment with
    | none => exact List.forall_mem_nil _
    | some f => exact hFragment f h

end Characters

------------------------------------------------------------
-- Low Characters
------------------------------------------------------------

/- Characters that are no controls are low only if they are blank. -/
theorem isLow_of_isControl
    (hControl : isControl c = false)
    (hBlank : c ≠ ' ') :
    isLow c = false :=
  Text.forall_plain
    (P := fun c => isControl c = false → c ≠ ' ' → isLow c = false)
    (by decide) (isPlain_of_isControl hControl) hControl hBlank

theorem isLow_of_inFragment
    (hc : inFragment c = false) :
    isLow c = false := by
  rw [inFragment, Bool.or_eq_false_iff] at hc
  apply isLow_of_isControl hc.1
  rintro rfl
  exact absurd hc.2 (by decide)

theorem isLow_of_inPath
    (hc : inPath c = false) :
    isLow c = false := by
  rw [inPath, Bool.or_eq_false_iff] at hc
  exact isLow_of_inFragment hc.1

/- What stands in a query is neither a control nor low. -/
theorem isLow_of_inQuery
    {special : Bool}
    (hc : inQuery special c = false) :
    isControl c = false ∧ isLow c = false := by
  rw [inQuery, Bool.or_eq_false_iff, Bool.or_eq_false_iff] at hc
  refine ⟨hc.1.1, isLow_of_isControl hc.1.1 ?_⟩
  rintro rfl
  exact absurd hc.1.2 (by decide)

/- A query and a fragment are not low. -/
theorem IsSettled.isLow_of_mem_ending
    (hSettled : IsSettled u) :
    ∀ c ∈ u.ending, isLow c = false := by
  apply forall_mem_ending
  · intro q hq
    rw [List.forall_mem_cons]
    exact ⟨by decide, fun c hc =>
      (isLow_of_inQuery (hSettled.query q hq c hc)).2⟩
  · intro f hf
    rw [List.forall_mem_cons]
    exact ⟨by decide, fun c hc =>
      isLow_of_inFragment (hSettled.fragment f hf c hc)⟩

/- Neither is what stands in front of a path. -/
theorem IsSound.isLow_of_mem_front
    (hSound : IsSound asked u) :
    ∀ c ∈ u.front, isLow c = false := by
  apply forall_mem_front
  · decide
  · exact fun c hc =>
      isLow_of_isSchemeChar (hSound.front.isScheme.chars c hc)
  · exact fun a ha c hc => (hSound.front.isSound a ha).isLow_of_mem_server hc

/- A URL without an ending has neither a query nor a fragment. -/
theorem ending_eq_nil_iff :
    u.ending = [] ↔ u.query = none ∧ u.fragment = none := by
  rw [ending, List.append_eq_nil_iff]
  cases u.query <;> cases u.fragment <;> simp

/- The text of a URL ends in no low character. -/
theorem IsSettled.isLow_of_getLast?_write
    (hSettled : IsSettled u)
    (hSound : IsSound asked u) :
    ∀ c ∈ u.write.getLast?, isLow c = false := by
  intro c hc
  rw [write_eq_ending, List.getLast?_append] at hc
  cases hEnd : u.ending.getLast? with
  | some d =>
      rw [hEnd] at hc
      cases hc
      exact hSettled.isLow_of_mem_ending c (List.mem_of_getLast? hEnd)
  | none =>
      rw [hEnd, Option.none_or, List.getLast?_append] at hc
      rw [List.getLast?_eq_none_iff, ending_eq_nil_iff] at hEnd
      cases hPath : u.path.getLast? with
      | none =>
          rw [hPath, Option.none_or] at hc
          exact hSound.isLow_of_mem_front c (List.mem_of_getLast? hc)
      | some d =>
          rw [hPath] at hc
          cases hc
          cases hFlat : u.isFlat with
          | false =>
              exact isLow_of_inPath ((hSettled.path hFlat).written c
                (List.mem_of_getLast? hPath)).1
          | true => exact (hSettled.flat hFlat).ends hEnd.1 hEnd.2 c hPath

------------------------------------------------------------
-- Controls
------------------------------------------------------------

/- Digits are no controls. -/
theorem isControl_of_isDigit
    (hc : Text.isDigit c = true) :
    isControl c = false :=
  Text.forall_hexDigit (P := (isControl · = false)) (by decide)
    (Text.isHexDigit_of_isDigit hc)

/- There are no controls in a user that was read. -/
theorem isControl_of_mem_readUser
    {cs : List Char}
    (hc : c ∈ (readUser cs).toList) :
    isControl c = false := by
  have hUser : ∀ {text : List Char}, c ∈ encode inUser text →
      isControl c = false := by
    intro text hMem
    have hOut := not_inUser_of_mem_encode text c hMem
    simp only [inUser, inPath, inFragment, Bool.or_eq_false_iff] at hOut
    exact hOut.1.1.1
  rw [readUser, String.toList_ofList, List.mem_append] at hc
  rcases hc with hName | hPassword
  · exact hUser hName
  · split at hPassword
    · cases hPassword
    · rcases List.mem_cons.mp hPassword with rfl | hMem
      · decide
      · exact hUser hMem

/- There are no controls in the text of a URL that was read. -/
theorem IsSettled.isControl_of_mem_write
    (hSettled : IsSettled u)
    (hSound : IsSound asked u) :
    ∀ c ∈ u.write, isControl c = false := by
  rw [write_eq_ending, List.forall_mem_append, List.forall_mem_append]
  refine ⟨⟨?_, ?_⟩, ?_⟩
  · apply forall_mem_front
    · decide
    · intro c hc
      have hChar := hSound.front.isScheme.chars c hc
      exact Text.forall_plain
        (P := fun c => isSchemeChar c = true → isControl c = false)
        (by decide) (isPlain_of_isSchemeChar hChar) hChar
    · intro a ha
      apply Authority.forall_mem_server
      · decide
      · intro c hc
        rw [← (hSettled.server a ha).user] at hc
        exact isControl_of_mem_readUser hc
      · exact fun h hh c hc =>
          ((hSound.front.isSound a ha).host h hh).isControl_of_mem_write hc
      · exact fun c => isControl_of_isDigit
  · intro c hc
    have hChar := hSound.front.isPath c hc
    rw [isPathChar, Bool.and_eq_true, Bool.not_eq_true'] at hChar
    exact hChar.1
  · apply forall_mem_ending
    · intro q hq
      rw [List.forall_mem_cons]
      exact ⟨by decide, fun c hc =>
        (isLow_of_inQuery (hSettled.query q hq c hc)).1⟩
    · intro f hf
      rw [List.forall_mem_cons]
      exact ⟨by decide, fun c hc => (hSound.fragment f hf c hc).1⟩

/- All characters of the text of a URL stay inside. -/
theorem IsSettled.isInner_of_mem_write
    (hSettled : IsSettled u)
    (hSound : IsSound asked u) :
    ∀ c ∈ u.write, isInner c = true := by
  intro c hc
  by_contra hOuter
  have hControl := (isLow_of_not_isInner (eq_false_of_ne_true hOuter)).2
  rw [hSettled.isControl_of_mem_write hSound c hc] at hControl
  cases hControl

------------------------------------------------------------
-- Whole Texts
------------------------------------------------------------

/- A text is clean if nothing is to be taken away. -/
theorem cleanEnd_eq_self
    {cs : List Char}
    (hInner : ∀ c ∈ cs, isInner c = true)
    (hEnd : ∀ c ∈ cs.getLast?, isLow c = false) :
    cleanEnd cs = cs := by
  have hDrop : cs.reverse.dropWhile isLow = cs.reverse := by
    cases hReverse : cs.reverse with
    | nil => rfl
    | cons c before =>
        have hLast : cs.getLast? = some c := by
          rw [← List.head?_reverse, hReverse]
          rfl
        exact List.dropWhile_cons_of_neg
          (ne_true_of_eq_false (hEnd c hLast))
  rw [cleanEnd, hDrop, List.reverse_reverse]
  exact List.filter_eq_self.mpr hInner

/- The text of a URL that was read is clean. -/
theorem IsSettled.clean_write
    (hSettled : IsSettled u)
    (hSound : IsSound asked u) :
    clean u.write = u.write := by
  rw [clean_eq_cleanEnd, cleanEnd_eq_self]
  · exact hSettled.isInner_of_mem_write hSound
  · exact hSettled.isLow_of_getLast?_write hSound
  · intro c hc
    rcases hSound.front.isScheme.starts with ⟨d, name, hText, _⟩
    rw [write_eq_behind, hText] at hc
    cases hc
    apply isLow_of_isSchemeChar
    apply hSound.front.isScheme.chars
    rw [hText]
    exact List.mem_cons_self

/- White space is a control, or low. -/
theorem isBlank_of_isControl
    (hControl : isControl c = false)
    (hLow : isLow c = false) :
    Text.isBlank c = false :=
  Text.forall_plain
    (P := fun c => isControl c = false → isLow c = false →
      Text.isBlank c = false)
    (by decide) (isPlain_of_isControl hControl) hControl hLow

/- No white space stands at the end of a URL that was read. -/
theorem IsSettled.not_endsBlank_write
    (hSettled : IsSettled u)
    (hSound : IsSound asked u) :
    ¬Text.EndsBlank u.write := by
  rintro ⟨c, hc, hBlank⟩
  rw [isBlank_of_isControl
    (hSettled.isControl_of_mem_write hSound c (List.mem_of_getLast? hc))
    (hSettled.isLow_of_getLast?_write hSound c hc)] at hBlank
  cases hBlank

/- Trimming leaves the text of a URL that was read. -/
theorem IsSettled.trim_write
    (hSettled : IsSettled u)
    (hSound : IsSound asked u) :
    Text.trim u.write = u.write := by
  have hStart : Text.trimStart u.write = u.write := by
    rcases hSound.front.isScheme.starts with ⟨d, name, hText, _⟩
    have hFirst : u.write = d :: (name ++ ':' :: u.behind) := by
      rw [write_eq_behind, hText, List.cons_append]
    have hMem : d ∈ u.write := by
      rw [hFirst]
      exact List.mem_cons_self
    have hScheme : isSchemeChar d = true := by
      apply hSound.front.isScheme.chars
      rw [hText]
      exact List.mem_cons_self
    rw [hFirst]
    exact Text.trimStart_cons (isBlank_of_isControl
      (hSettled.isControl_of_mem_write hSound d hMem)
      (isLow_of_isSchemeChar hScheme)) _
  rw [Text.trim, hStart]
  exact Text.trimEnd_eq_self_iff.mpr (hSettled.not_endsBlank_write hSound)

/- The text of a URL is read behind its scheme. -/
theorem IsSettled.read_write
    (hSettled : IsSettled u)
    (hSound : IsSound asked u)
    (base : Option Url) :
    read base u.write = readScheme base u.scheme u.behind := by
  apply read_of_takeScheme?
  rw [hSettled.clean_write hSound, write_eq_behind,
    hSound.front.isScheme.takeScheme?_append]

theorem IsSettled.parse_eq_readScheme
    (hSettled : IsSettled u)
    (hSound : IsSound asked u) :
    parse u.text = readScheme none u.scheme u.behind := by
  rw [parse, text, String.toList_ofList, hSettled.read_write hSound]

/- In the place of a URL with another scheme, it is read the same. -/
theorem IsSettled.join_text
    {base : Url}
    (hSettled : IsSettled u)
    (hSound : IsSound asked u)
    (hFiles : base.scheme ≠ "file")
    (hOther : base.scheme ≠ u.scheme) :
    base.join u.text = parse u.text := by
  rw [hSettled.parse_eq_readScheme hSound, join, text, String.toList_ofList,
    hSettled.read_write hSound, readScheme_of_ne hFiles hOther]

end Url

end Gleaner
