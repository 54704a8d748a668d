import Gleaner.Markup.Builder
import Gleaner.Proofs.Markup.Escape
import Gleaner.Proofs.Text.Pieces
import Mathlib.Data.List.TakeWhile

/-
  Start tags are written so that they are read back.

  Main declarations:
    * `Markup.Tag.isWritten`
    * `Markup.Tag.start`
    * `Markup.takeTag?_write`
-/

namespace Gleaner

namespace Markup

------------------------------------------------------------
-- Tags that Can Be Written
------------------------------------------------------------

/- The character stays what it is where names are read. -/
def isKeptChar (c : Char) : Bool :=
  nameChar c == c && c != '\r'

/- A character of the name of a tag. -/
def isTagChar (c : Char) : Bool :=
  isKeptChar c && !endsTagName c

/- A name of a tag: a letter comes first. -/
def isTagName (cs : List Char) : Bool :=
  cs.all isTagChar && (cs.head?.any Text.isLetter)

/- A name of an attribute: its first character may be `=`. -/
def isAttributeName : List Char → Bool
  | [] => false
  | c :: cs => isTagChar c && cs.all fun d => isTagChar d && d != '='

/- The value is read as it is written. -/
def isKeptValue (cs : List Char) : Bool :=
  cs.all fun c => c != '\x00' && c != '\r'

/- An attribute that is read as it is written. -/
def Attribute.isWritten (a : Attribute) : Bool :=
  a.space == .plain && isAttributeName a.name.toList &&
    isKeptValue a.value.toList

/- A start tag that is read as it is written. -/
def Tag.isWritten (t : Tag) : Bool :=
  t.space == .html && isTagName t.name.toList &&
    t.attributes.all Attribute.isWritten &&
    decide ((t.attributes.map (·.name)).Nodup)

/- The start tag of an element. -/
def Tag.start (t : Tag) : StartTag :=
  ⟨t.name, t.attributes.map fun a => (a.name, a.value), false⟩

theorem htmlTag_start
    {t : Tag}
    (hTag : t.isWritten = true) :
    Build.htmlTag t.start = t := by
  simp only [Tag.isWritten, Bool.and_eq_true, beq_iff_eq,
    List.all_eq_true] at hTag
  rcases hTag with ⟨⟨⟨hSpace, _⟩, hAttributes⟩, _⟩
  have hSame :
      t.attributes.map (fun a => (⟨.plain, a.name, a.value⟩ : Attribute)) =
        t.attributes := by
    nth_rewrite 2 [← List.map_id t.attributes]
    apply List.map_congr_left
    intro a ha
    have hPlain := hAttributes a ha
    simp only [Attribute.isWritten, Bool.and_eq_true, beq_iff_eq]
      at hPlain
    rw [← hPlain.1.1]
    rfl
  rcases t with ⟨space, name, attributes⟩
  simp only at hSpace hSame
  simp [Build.htmlTag, Tag.start, hSpace, Function.comp_def, hSame]

------------------------------------------------------------
-- Attributes
------------------------------------------------------------

variable {attributes : List (String × String)}
variable {cs rest : List Char}

theorem nameChar_of_isTagChar
    {c : Char}
    (hc : isTagChar c = true) :
    nameChar c = c := by
  simp only [isTagChar, isKeptChar, Bool.and_eq_true, beq_iff_eq] at hc
  exact hc.1.1

theorem not_endsTagName_of_isTagChar
    {c : Char}
    (hc : isTagChar c = true) :
    isSpace c = false ∧ (c == '/') = false ∧ (c == '>') = false := by
  simp only [isTagChar, Bool.and_eq_true, Bool.not_eq_true', endsTagName,
    Bool.or_eq_false_iff] at hc
  exact ⟨hc.2.1.1, hc.2.1.2, hc.2.2⟩

/- The rest of a name is collected. -/
theorem takeAttributes_name
    (n : List Char)
    (hChars : (cs.all fun d => isTagChar d && d != '=') = true) :
    takeAttributes (.name n) attributes (cs ++ rest) =
      takeAttributes (.name (cs.reverse ++ n)) attributes rest := by
  induction cs generalizing n with
  | nil => rfl
  | cons c cs ih =>
      simp only [List.all_cons, Bool.and_eq_true, bne_iff_ne] at hChars
      rcases hChars with ⟨⟨hc, hEqual⟩, hRest⟩
      rcases not_endsTagName_of_isTagChar hc with ⟨hSpace, hSlash, hEnd⟩
      rw [List.cons_append, takeAttributes]
      simp only [hSpace, hSlash, hEnd, beq_eq_false_iff_ne.mpr hEqual,
        nameChar_of_isTagChar hc, Bool.false_eq_true, if_false]
      rw [ih (c :: n) (by simpa using hRest)]
      simp

/- The characters of a value are collected up to the quote. -/
theorem takeAttributes_quoted
    (n v : List Char)
    (hChars : ∀ c ∈ cs, c ≠ '"' ∧ c ≠ '\x00') :
    takeAttributes (.quoted n '"' v) attributes (cs ++ rest) =
      takeAttributes (.quoted n '"' (cs.reverse ++ v)) attributes rest := by
  induction cs generalizing v with
  | nil => rfl
  | cons c cs ih =>
      rcases hChars c List.mem_cons_self with ⟨hQuote, hNull⟩
      rw [List.cons_append, takeAttributes]
      simp only [beq_eq_false_iff_ne.mpr hQuote, replaceNull,
        beq_eq_false_iff_ne.mpr hNull, Bool.false_eq_true, if_false]
      rw [ih (c :: v) (fun d hd => hChars d (List.mem_cons_of_mem c hd))]
      simp

/- Written values have no quotes in them. -/
theorem forall_mem_flatMap_escapeValue
    (hKept : isKeptValue cs = true) :
    ∀ c ∈ cs.flatMap escapeValue, c ≠ '"' ∧ c ≠ '\x00' := by
  intro c hc
  rcases List.mem_flatMap.mp hc with ⟨d, hd, hIn⟩
  have hNull := List.all_eq_true.mp hKept d hd
  simp only [Bool.and_eq_true, bne_iff_ne] at hNull
  unfold escapeValue at hIn
  split at hIn
  · have hAll : ∀ x ∈ ['&', 'a', 'm', 'p', ';'],
        x ≠ '"' ∧ x ≠ '\x00' := by simp
    exact hAll c hIn
  · split at hIn
    · have hAll : ∀ x ∈ ['&', 'n', 'b', 's', 'p', ';'],
          x ≠ '"' ∧ x ≠ '\x00' := by simp
      exact hAll c hIn
    · split at hIn
      · have hAll : ∀ x ∈ ['&', 'q', 'u', 'o', 't', ';'],
            x ≠ '"' ∧ x ≠ '\x00' := by simp
        exact hAll c hIn
      · rename_i hQuote
        rw [List.mem_singleton] at hIn
        subst hIn
        exact ⟨by simpa using hQuote, hNull.1⟩

/- A name and a value as they are read become an attribute. -/
theorem addAttribute_written
    {a : Attribute}
    {c : Char}
    {cs : List Char}
    (hChars : a.name.toList = c :: cs)
    (hNew : a.name ∉ attributes.map (·.1)) :
    addAttribute (cs.reverse ++ [c])
        ((a.value.toList.flatMap escapeValue).reverse ++ []) attributes =
      attributes ++ [(a.name, a.value)] := by
  have hAny : (attributes.any fun x => x.1 == a.name) = false := by
    rw [List.any_eq_false]
    intro x hx hEq
    exact hNew (List.mem_map.mpr ⟨x, hx, beq_iff_eq.mp hEq⟩)
  have hBack : String.ofList (cs.reverse ++ [c]).reverse = a.name := by
    rw [List.reverse_append, List.reverse_reverse]
    change String.ofList (c :: cs) = a.name
    rw [← hChars, String.ofList_toList]
  simp only [addAttribute, hBack, hAny, List.append_nil,
    List.reverse_reverse, decodeReferences_escapeValue,
    String.ofList_toList, Bool.false_eq_true, if_false]

/- An attribute is read behind those in front of it. -/
theorem takeAttributes_write
    {a : Attribute}
    (hAttribute : a.isWritten = true)
    (hNew : a.name ∉ attributes.map (·.1)) :
    takeAttributes .beforeName attributes (a.write ++ rest) =
      takeAttributes .beforeName (attributes ++ [(a.name, a.value)])
        rest := by
  simp only [Attribute.isWritten, Bool.and_eq_true, beq_iff_eq]
    at hAttribute
  rcases hAttribute with ⟨⟨hSpace, hName⟩, hValue⟩
  cases hChars : a.name.toList with
  | nil => simp [hChars, isAttributeName] at hName
  | cons c cs =>
      rw [hChars, isAttributeName, Bool.and_eq_true] at hName
      rcases hName with ⟨hFirst, hOthers⟩
      rcases not_endsTagName_of_isTagChar hFirst with
        ⟨hBlank, hSlash, hEnd⟩
      have hWrite : a.write ++ rest =
          ' ' :: c :: (cs ++ '=' :: '"' ::
            (a.value.toList.flatMap escapeValue ++ '"' :: rest)) := by
        simp [Attribute.write, Attribute.lead, hSpace, hChars]
      rw [hWrite, takeAttributes]
      simp only [show isSpace ' ' = true from rfl, if_true]
      rw [takeAttributes]
      simp only [hBlank, hSlash, hEnd, nameChar_of_isTagChar hFirst,
        Bool.false_eq_true, if_false]
      rw [takeAttributes_name [c] hOthers, takeAttributes]
      simp only [show isSpace '=' = false from rfl,
        show ('=' == '/') = false from rfl,
        show ('=' == '>') = false from rfl,
        show ('=' == '=') = true from rfl, Bool.false_eq_true,
        if_false, if_true]
      rw [takeAttributes]
      simp only [show isSpace '"' = false from rfl,
        show ('"' == '"') = true from rfl, Bool.true_or,
        Bool.false_eq_true, if_false, if_true]
      rw [takeAttributes_quoted _ [] (forall_mem_flatMap_escapeValue hValue),
        takeAttributes]
      simp only [show ('"' == '"') = true from rfl, if_true]
      rw [addAttribute_written hChars hNew]

/- The attributes of a tag are read in their order. -/
theorem takeAttributes_flatMap
    {as : List Attribute}
    (hAttributes : as.all Attribute.isWritten = true)
    (hNodup : (attributes.map (·.1) ++ as.map (·.name)).Nodup) :
    takeAttributes .beforeName attributes
        (as.flatMap Attribute.write ++ '>' :: rest) =
      some (attributes ++ as.map (fun a => (a.name, a.value)), false,
        rest) := by
  induction as generalizing attributes with
  | nil =>
      rw [List.flatMap_nil, List.nil_append, takeAttributes]
      simp [isSpace]
  | cons a as ih =>
      rw [List.all_cons, Bool.and_eq_true] at hAttributes
      have hNew : a.name ∉ attributes.map (·.1) := by
        intro hOld
        rw [List.map_cons] at hNodup
        exact (List.nodup_append.mp hNodup).2.2 _ hOld _
          List.mem_cons_self rfl
      rw [List.flatMap_cons, List.append_assoc,
        takeAttributes_write hAttributes.1 hNew,
        ih hAttributes.2 (by simpa using hNodup)]
      simp

------------------------------------------------------------
-- Tags
------------------------------------------------------------

variable {t : Tag}

/- A tag behind its first bracket. -/
def Tag.inner (t : Tag) : List Char :=
  t.name.toList ++ t.attributes.flatMap Attribute.write ++ ['>']

theorem writeStart_eq (t : Tag) : t.writeStart = '<' :: t.inner := by
  simp [Tag.writeStart, Tag.inner]

/- The name of a tag ends where its attributes start. -/
theorem endsTagName_head?
    (as : List Attribute)
    (rest : List Char) :
    ∀ c ∈ (as.flatMap Attribute.write ++ '>' :: rest).head?,
      (!endsTagName c) = false := by
  cases as with
  | nil =>
      rintro c ⟨⟩
      rfl
  | cons a as =>
      rw [List.flatMap_cons, Attribute.write]
      rintro c ⟨⟩
      rfl

/- A start tag is read as it was written. -/
theorem takeTag?_write
    (hTag : t.isWritten = true)
    (rest : List Char) :
    takeTag? (t.inner ++ rest) = some (t.start, rest) := by
  simp only [Tag.isWritten, isTagName, Bool.and_eq_true,
    decide_eq_true_eq] at hTag
  rcases hTag with ⟨⟨⟨_, hName, _⟩, hAttributes⟩, hNodup⟩
  have hChars := List.all_eq_true.mp hName
  have hText : t.inner ++ rest =
      t.name.toList ++
        (t.attributes.flatMap Attribute.write ++ '>' :: rest) := by
    simp [Tag.inner]
  have hRun : ∀ d ∈ t.name.toList, (!endsTagName d) = true := by
    intro d hd
    have hd := hChars d hd
    rw [isTagChar, Bool.and_eq_true] at hd
    exact hd.2
  have hKept : t.name.toList.map nameChar = t.name.toList := by
    nth_rewrite 2 [← List.map_id t.name.toList]
    apply List.map_congr_left
    exact fun d hd => nameChar_of_isTagChar (hChars d hd)
  have hStop := endsTagName_head? t.attributes rest
  rw [takeTag?, hText, Text.takeWhile_append_of_stop hRun hStop,
    Text.dropWhile_append_of_stop hRun hStop, takeAttributes_flatMap hAttributes (by simpa using hNodup), hKept,
    String.ofList_toList]
  rfl

------------------------------------------------------------
-- Tags Without an End
------------------------------------------------------------

end Markup

end Gleaner
