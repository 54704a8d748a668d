import Gleaner.Markup.Reference
import Gleaner.Markup.Serialize
import Gleaner.Proofs.Domain.PlainForm
import Gleaner.Proofs.Text.Pieces

/-
  Texts and the values of attributes are written so that their
  references are read back.

  Main declarations:
    * `Markup.findEntity?_append`
    * `Markup.decodeReferences_flatMap`
    * `Markup.decodeReferences_escapeText`
    * `Markup.decodeReferences_escapeValue`
-/

namespace Gleaner

namespace Markup

------------------------------------------------------------
-- Names of References
------------------------------------------------------------

/-
  The table has a name for a character, and no name that the
  first name starts.
-/
def namesAlone (es : List Entity) (name : List Char) (c : Char) : Bool :=
  (es.all fun e =>
      Text.startsWith e.name name || !Text.startsWith name e.name) &&
    match (es.filter fun e => Text.startsWith e.name name).foldl
        longerEntity none with
    | some e => e.name == name && e.value == [c]
    | none => false

/- What follows a name is not taken for a part of it. -/
theorem find_of_namesAlone
    {es : List Entity}
    {name : List Char}
    {c : Char}
    (hAlone : namesAlone es name c = true)
    (rest : List Char) :
    (es.filter fun e => Text.startsWith e.name (name ++ rest)).foldl
        longerEntity none =
      some ⟨name, [c]⟩ := by
  rw [namesAlone, Bool.and_eq_true, List.all_eq_true] at hAlone
  rcases hAlone with ⟨hNone, hFound⟩
  have hSame :
      (es.filter fun e => Text.startsWith e.name (name ++ rest)) =
        es.filter fun e => Text.startsWith e.name name := by
    apply List.filter_congr
    intro e he
    have hLonger := hNone e he
    rw [Bool.or_eq_true, Bool.not_eq_true'] at hLonger
    rw [Bool.eq_iff_iff, Text.startsWith_iff, Text.startsWith_iff]
    constructor
    · intro hPrefix
      rcases List.prefix_or_prefix_of_prefix hPrefix
          (List.prefix_append name rest) with hBefore | hBehind
      · exact hBefore
      · rcases hLonger with hBefore | hNot
        · exact Text.startsWith_iff.mp hBefore
        · rw [Text.startsWith_iff.mpr hBehind] at hNot
          cases hNot
    · intro hPrefix
      exact hPrefix.trans (List.prefix_append name rest)
  rw [hSame]
  split at hFound
  · rename_i e hFind
    rw [Bool.and_eq_true, beq_iff_eq, beq_iff_eq] at hFound
    rw [hFind, ← hFound.1, ← hFound.2]
  · cases hFound

/- The names that texts and values are written with, without the `&`. -/
def writtenNames : List (List Char × Char) :=
  [(['a', 'm', 'p', ';'], '&'),
    (['n', 'b', 's', 'p', ';'], '\u00A0'),
    (['q', 'u', 'o', 't', ';'], '"'),
    (['l', 't', ';'], '<'),
    (['g', 't', ';'], '>')]

/-
  The starts of the words of the table that can hold a part of a
  written name: two letters of the name, or the first one alone.
-/
def nearStarts : List (List Char) :=
  [['a', 'm'], ['n', 'b'], ['q', 'u'], ['l', 't'], ['g', 't'],
    ['a', '='], ['n', '='], ['q', '='], ['l', '='], ['g', '=']]

/- A word of the table that starts like one for a written name. -/
def isNearWord : List Char → Bool
  | '=' :: _ => true
  | c :: d :: _ => nearStarts.contains [c, d]
  | _ => false

/- A name that a written name starts with, or that starts with one. -/
def isNearName (name : List Char) : Bool :=
  writtenNames.any fun (written, _) =>
    Text.startsWith name written || Text.startsWith written name

/- The entities of a table that have such a name. -/
def nearEntities (cs : List Char) : List Entity :=
  (((Text.words Text.isGap cs).filter isNearWord).filterMap
    Entity.ofText?).filter (isNearName ·.name)

/- All of them: no other name comes in the way of a written one. -/
def nearNames : List (List Char × List Char) :=
  [(['a', 'm', 'p'], ['&']),
    (['a', 'm', 'p', ';'], ['&']),
    (['g', 't'], ['>']),
    (['g', 't', ';'], ['>']),
    (['l', 't'], ['<']),
    (['l', 't', ';'], ['<']),
    (['n', 'b', 's', 'p'], ['\u00A0']),
    (['n', 'b', 's', 'p', ';'], ['\u00A0']),
    (['q', 'u', 'o', 't'], ['"']),
    (['q', 'u', 'o', 't', ';'], ['"'])]

-- the table is long, and only its near words are read as entities
set_option maxRecDepth 200000 in
theorem exists_entityText_eq :
    ∃ cs, entityText = String.ofList cs ∧
      (nearEntities cs).map (fun e => (e.name, e.value)) = nearNames := by
  refine ⟨?cs, ?_, ?_⟩
  rotate_left
  · unfold entityText
    rfl
  · decide +kernel

variable {name : List Char}
variable {c : Char}

/- A part of a written name, and what may follow it, is near. -/
theorem isNear_of_prefix
    (hName : (name, c) ∈ writtenNames)
    {part rest : List Char}
    (codes : List Char)
    (hPart : part <+: name ++ rest) :
    isNearName part = true ∧ isNearWord (part ++ '=' :: codes) = true := by
  constructor
  · rw [isNearName, List.any_eq_true]
    refine ⟨(name, c), hName, ?_⟩
    rw [Bool.or_eq_true, Text.startsWith_iff, Text.startsWith_iff]
    exact List.prefix_or_prefix_of_prefix hPart (List.prefix_append _ _)
  · have hStarts : ∀ entry ∈ writtenNames, ∃ d e ds,
        entry.1 = d :: e :: ds ∧
          nearStarts.contains [d, e] = true ∧
          nearStarts.contains [d, '='] = true ∧ d ≠ '=' := by
      simp [writtenNames, nearStarts]
    rcases hStarts _ hName with ⟨d, e, ds, hStart, hTwo, hOne, hd⟩
    rw [show name = d :: e :: ds from hStart, List.cons_append,
      List.cons_append] at hPart
    match part, hPart with
    | [], _ => rfl
    | [x], hPart =>
        have hx := (List.cons_prefix_cons.mp hPart).1
        subst hx
        unfold isNearWord
        split
        · rfl
        · rename_i hWord
          rcases List.cons.inj hWord with ⟨rfl, hMore⟩
          rcases List.cons.inj hMore with ⟨rfl, _⟩
          exact hOne
        · rename_i _ hNone
          exact absurd rfl (hNone _ _ _)
    | x :: y :: more, hPart =>
        rcases List.cons_prefix_cons.mp hPart with ⟨rfl, hTail⟩
        rcases List.cons_prefix_cons.mp hTail with ⟨rfl, _⟩
        unfold isNearWord
        split
        · rfl
        · rename_i hWord
          rcases List.cons.inj hWord with ⟨rfl, hMore⟩
          rcases List.cons.inj hMore with ⟨rfl, _⟩
          exact hTwo
        · rename_i _ hNone
          exact absurd rfl (hNone _ _ _)

/- A word of an entity is its name, `=` and its code points. -/
theorem exists_of_ofText?_eq_some
    {word : List Char}
    {e : Entity}
    (hEntity : Entity.ofText? word = some e) :
    ∃ codes, word = e.name ++ '=' :: codes := by
  unfold Entity.ofText? at hEntity
  split at hEntity
  · rename_i front codes hCut
    refine ⟨codes, ?_⟩
    rw [← Text.joinWith_cutAt '=' word, hCut, Text.joinWith_cons_cons]
    cases hEntity
    rfl
  · cases hEntity

/- The entities that may stand where a written name stands are near. -/
theorem filter_entities_eq
    {cs : List Char}
    (hText : entityText = String.ofList cs)
    (hName : (name, c) ∈ writtenNames)
    (rest : List Char) :
    (entities.filter fun e => Text.startsWith e.name (name ++ rest)) =
      (nearEntities cs).filter fun e =>
        Text.startsWith e.name (name ++ rest) := by
  rw [entities, hText, String.toList_ofList, nearEntities,
    List.filter_filter, List.filter_filterMap, List.filter_filterMap,
    List.filterMap_filter]
  apply List.filterMap_congr
  intro word _
  cases hEntity : Entity.ofText? word with
  | none => simp
  | some e =>
      rcases exists_of_ofText?_eq_some hEntity with ⟨codes, hWord⟩
      by_cases hStart : Text.startsWith e.name (name ++ rest) = true
      · rcases isNear_of_prefix hName codes
            (Text.startsWith_iff.mp hStart) with ⟨hNear, hNearWord⟩
        rw [← hWord] at hNearWord
        simp [Option.filter, hStart, hNear, hNearWord]
      · simp [Option.filter, hStart]

/- A written name is found, whatever follows it. -/
theorem findEntity?_append
    (hName : (name, c) ∈ writtenNames)
    (rest : List Char) :
    findEntity? (name ++ rest) = some ⟨name, [c]⟩ := by
  rcases exists_entityText_eq with ⟨cs, hText, hAll⟩
  have hNear :
      nearEntities cs = nearNames.map fun entry => ⟨entry.1, entry.2⟩ := by
    rw [← hAll, List.map_map]
    exact (List.map_id _).symm
  have hAlone : (writtenNames.all fun (name, c) =>
      namesAlone (nearNames.map fun entry => ⟨entry.1, entry.2⟩) name c) =
        true := by
    decide
  rw [findEntity?, filter_entities_eq hText hName, hNear]
  exact find_of_namesAlone (List.all_eq_true.mp hAlone (name, c) hName) rest

/- A written name is read. -/
theorem takeNamed?_append
    {inValue : Bool}
    (hName : (name, c) ∈ writtenNames)
    (rest : List Char) :
    takeNamed? inValue (name ++ rest) = some ([c], rest) := by
  have hEnd : name.getLast? = some ';' := by
    have hEnds : ∀ entry ∈ writtenNames, entry.1.getLast? = some ';' := by
      decide
    exact hEnds _ hName
  rw [takeNamed?, findEntity?_append hName]
  simp [staysText, hEnd]

/- Only an ampersand starts a reference. -/
theorem takeReference?_cons
    {inValue : Bool}
    (hc : c ≠ '&')
    (rest : List Char) :
    takeReference? inValue (c :: rest) = none := by
  unfold takeReference?
  split
  · rename_i hStart
    exact absurd (List.cons.inj hStart).1 hc
  · rename_i hStart
    exact absurd (List.cons.inj hStart).1 hc
  · rfl

/- A written name is read behind an ampersand. -/
theorem takeReference?_name
    {inValue : Bool}
    (hName : (name, c) ∈ writtenNames)
    (rest : List Char) :
    takeReference? inValue ('&' :: (name ++ rest)) = some ([c], rest) := by
  have hHeads : ∀ entry ∈ writtenNames, ∃ d ds,
      entry.1 = d :: ds ∧ d ≠ '#' := by
    simp [writtenNames]
  rcases hHeads _ hName with ⟨d, ds, hHead, hd⟩
  have hTake : takeNamed? inValue (name ++ rest) = some ([c], rest) :=
    takeNamed?_append hName rest
  dsimp only at hHead
  subst hHead
  unfold takeReference?
  split
  · rename_i hStart
    exact absurd (List.cons.inj (List.cons.inj hStart).2).1 hd
  · rename_i hStart
    rw [← (List.cons.inj hStart).2]
    exact hTake
  · rename_i hOther
    exact absurd rfl (hOther _)

------------------------------------------------------------
-- Texts and Values
------------------------------------------------------------

/- A character is written as it is, or as a reference to it. -/
def IsEscape (escape : Char → List Char) : Prop :=
  ∀ c, (c ≠ '&' ∧ escape c = [c]) ∨
    ∃ name, (name, c) ∈ writtenNames ∧ escape c = '&' :: name

theorem isEscape_escapeValue : IsEscape escapeValue := by
  intro c
  unfold escapeValue
  split
  · rename_i hc
    rw [beq_iff_eq] at hc
    exact .inr ⟨['a', 'm', 'p', ';'], by simp [writtenNames, hc], rfl⟩
  · rename_i hAmp
    split
    · rename_i hc
      rw [beq_iff_eq] at hc
      exact .inr ⟨['n', 'b', 's', 'p', ';'], by simp [writtenNames, hc], rfl⟩
    · split
      · rename_i hc
        rw [beq_iff_eq] at hc
        exact .inr
          ⟨['q', 'u', 'o', 't', ';'], by simp [writtenNames, hc], rfl⟩
      · exact .inl ⟨by simpa using hAmp, rfl⟩

theorem isEscape_escapeText : IsEscape escapeText := by
  intro c
  unfold escapeText
  split
  · rename_i hc
    rw [beq_iff_eq] at hc
    exact .inr ⟨['a', 'm', 'p', ';'], by simp [writtenNames, hc], rfl⟩
  · rename_i hAmp
    split
    · rename_i hc
      rw [beq_iff_eq] at hc
      exact .inr ⟨['n', 'b', 's', 'p', ';'], by simp [writtenNames, hc], rfl⟩
    · split
      · rename_i hc
        rw [beq_iff_eq] at hc
        exact .inr ⟨['l', 't', ';'], by simp [writtenNames, hc], rfl⟩
      · split
        · rename_i hc
          rw [beq_iff_eq] at hc
          exact .inr ⟨['g', 't', ';'], by simp [writtenNames, hc], rfl⟩
        · exact .inl ⟨by simpa using hAmp, rfl⟩

/- Four characters of a text are written as references. -/
theorem escapeText_eq_iff {c : Char} :
    escapeText c = [c] ↔ c ∉ ['&', '\u00A0', '<', '>'] := by
  simp only [List.mem_cons, List.not_mem_nil, or_false, not_or]
  constructor
  · intro hPlain
    refine ⟨?_, ?_, ?_, ?_⟩ <;>
      (rintro rfl
       revert hPlain
       decide)
  · rintro ⟨hAmp, hBlank, hLess, hMore⟩
    simp [escapeText, hAmp, hBlank, hLess, hMore]

/- The references that characters are written with are read back. -/
theorem decodeReferences_flatMap
    {escape : Char → List Char}
    (hEscape : IsEscape escape)
    (inValue : Bool)
    (cs : List Char) :
    decodeReferences inValue (cs.flatMap escape) = cs := by
  have hWithin :
      ∀ left, (cs.flatMap escape).length ≤ left →
        decodeWithin inValue left (cs.flatMap escape) = cs := by
    induction cs with
    | nil =>
        intro left _
        cases left with
        | zero => rfl
        | succ left => rfl
    | cons c cs ih =>
        intro left hLeft
        rw [List.flatMap_cons] at hLeft ⊢
        rcases hEscape c with ⟨hc, hPlain⟩ | ⟨name, hName, hRef⟩
        · rw [hPlain, List.length_append, List.length_singleton] at hLeft
          obtain ⟨left, rfl⟩ : ∃ n, left = n + 1 := ⟨left - 1, by omega⟩
          rw [hPlain, List.singleton_append, decodeWithin,
            takeReference?_cons hc, Option.elim, ih left (by omega)]
        · rw [hRef, List.length_append, List.length_cons] at hLeft
          obtain ⟨left, rfl⟩ : ∃ n, left = n + 1 := ⟨left - 1, by omega⟩
          rw [hRef, List.cons_append, decodeWithin,
            takeReference?_name hName, Option.elim, ih left (by omega),
            List.singleton_append]
  exact hWithin _ (Nat.le_refl _)

theorem decodeReferences_escapeValue (cs : List Char) :
    decodeReferences true (cs.flatMap escapeValue) = cs :=
  decodeReferences_flatMap isEscape_escapeValue true cs

theorem decodeReferences_escapeText (cs : List Char) :
    decodeReferences false (cs.flatMap escapeText) = cs :=
  decodeReferences_flatMap isEscape_escapeText false cs

/- A written text has no brackets in it. -/
theorem not_mem_flatMap_escapeText
    {d : Char}
    (hBracket : d = '<' ∨ d = '>')
    (cs : List Char) :
    d ∉ cs.flatMap escapeText := by
  intro hd
  rcases List.mem_flatMap.mp hd with ⟨c, _, hIn⟩
  unfold escapeText at hIn
  rcases hBracket with rfl | rfl
  all_goals
    split at hIn
    · revert hIn
      decide
    · split at hIn
      · revert hIn
        decide
      · split at hIn
        · revert hIn
          decide
        · split at hIn
          · revert hIn
            decide
          · rw [List.mem_singleton] at hIn
            subst hIn
            simp_all

/- A character is written with at least one character. -/
theorem flatMap_escapeText_ne_nil
    {cs : List Char}
    (hSome : cs ≠ []) :
    cs.flatMap escapeText ≠ [] := by
  cases cs with
  | nil => exact absurd rfl hSome
  | cons c cs =>
      rw [List.flatMap_cons]
      rcases isEscape_escapeText c with ⟨_, hPlain⟩ | ⟨name, _, hRef⟩
      · simp [hPlain]
      · simp [hRef]

end Markup

end Gleaner
