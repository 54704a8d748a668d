import Gleaner.Proofs.Markup.Reading

/-
  Elements whose text is written without references.  They are read
  up to their end tag, as long as nothing in the text looks like it.

  Main declarations:
    * `Markup.isReadRaw`
    * `Markup.takeRaw_append`
    * `Markup.takeScript_append`
    * `Markup.StandsInText`
    * `Markup.Stands.reads_rawText`
-/

namespace Gleaner

namespace Text

/- A long text starts as it does in front of another text. -/
theorem startsWith_append
    {pre cs : List Char}
    (hLong : pre.length ≤ cs.length)
    (rest : List Char) :
    startsWith pre (cs ++ rest) = startsWith pre cs := by
  rw [Bool.eq_iff_iff, startsWith_iff, startsWith_iff]
  constructor
  · intro hStart
    exact List.prefix_of_prefix_length_le hStart (List.prefix_append cs rest)
      hLong
  · intro hStart
    exact hStart.trans (List.prefix_append cs rest)

theorem dropPrefixIgnoringCase?_append
    {pre cs : List Char}
    (hLong : pre.length ≤ cs.length)
    (rest : List Char) :
    dropPrefixIgnoringCase? pre (cs ++ rest) =
      (dropPrefixIgnoringCase? pre cs).map (· ++ rest) := by
  induction pre generalizing cs with
  | nil => rfl
  | cons p pre ih =>
      cases cs with
      | nil => simp at hLong
      | cons c cs =>
          rw [List.cons_append, dropPrefixIgnoringCase?,
            dropPrefixIgnoringCase?]
          split
          · exact ih (by simpa using hLong)
          · rfl

theorem length_of_dropPrefixIgnoringCase?
    {pre cs after : List Char}
    (hDrop : dropPrefixIgnoringCase? pre cs = some after) :
    pre.length + after.length = cs.length := by
  induction pre generalizing cs with
  | nil =>
      cases hDrop
      simp
  | cons p pre ih =>
      cases cs with
      | nil => cases hDrop
      | cons c cs =>
          rw [dropPrefixIgnoringCase?] at hDrop
          split at hDrop
          · have hRest := ih hDrop
            simp only [List.length_cons]
            omega
          · cases hDrop

end Text

namespace Markup

open Build

------------------------------------------------------------
-- The End of Raw Text
------------------------------------------------------------

/- Whether a tag starts is told by few characters. -/
theorem startsTag_append
    {lead name cs : List Char}
    (hLong : lead.length + name.length < cs.length)
    (rest : List Char) :
    startsTag lead name (cs ++ rest) = startsTag lead name cs := by
  have hPre : (lead ++ name).length < cs.length := by
    rwa [List.length_append]
  rw [startsTag, startsTag, Text.dropPrefixIgnoringCase?_append hPre.le]
  cases hDrop : Text.dropPrefixIgnoringCase? (lead ++ name) cs with
  | none => rfl
  | some after =>
      have hLength := Text.length_of_dropPrefixIgnoringCase? hDrop
      cases after with
      | nil =>
          rw [List.length_nil] at hLength
          omega
      | cons c after => rfl

/- Raw text in front of an end tag is read in front of any text. -/
theorem takeRaw_append
    {name cs close : List Char}
    (hLong : name.length + 2 < close.length)
    (hRead : takeRaw name (cs ++ close) = (cs, close))
    (rest : List Char) :
    takeRaw name (cs ++ (close ++ rest)) = (cs, close ++ rest) := by
  have hSame : ∀ ds : List Char, name.length + 2 < ds.length →
      startsTag ['<', '/'] name (ds ++ rest) =
        startsTag ['<', '/'] name ds := by
    intro ds hds
    have hLength : ['<', '/'].length + name.length < ds.length :=
      show 2 + name.length < ds.length by omega
    exact startsTag_append hLength rest
  rw [← List.append_assoc]
  induction cs with
  | nil =>
      rw [List.nil_append] at hRead ⊢
      cases close with
      | nil => simp at hLong
      | cons c close =>
          rw [takeRaw] at hRead
          split at hRead
          · rename_i hEnd
            have hNow := hSame _ hLong
            rw [List.cons_append] at hNow ⊢
            rw [takeRaw, hNow, if_pos hEnd]
          · cases hRead
  | cons c cs ih =>
      rw [List.cons_append] at hRead ⊢
      have hNow := hSame (c :: (cs ++ close)) (by
        simp only [List.length_cons, List.length_append]
        omega)
      rw [List.cons_append] at hNow ⊢
      rw [takeRaw] at hRead ⊢
      split at hRead
      · cases hRead
      · rename_i hOn
        rcases hTake : takeRaw name (cs ++ close) with ⟨text, after⟩
        rw [hTake] at hRead
        cases hRead
        rw [hNow, if_neg hOn, ih hTake]

/- A step of the reader of scripts looks at few characters. -/
theorem ScriptState.step_append
    (s : ScriptState)
    (c : Char)
    {cs : List Char}
    (hLong : 9 ≤ cs.length)
    (rest : List Char) :
    s.step c (cs ++ rest) = s.step c cs := by
  have hComment : ['<', '!', '-', '-'].length ≤ cs.length :=
    show 4 ≤ cs.length by omega
  have hStart : ['<'].length + "script".toList.length < cs.length :=
    show 1 + 6 < cs.length by omega
  have hEnd : ['<', '/'].length + "script".toList.length < cs.length :=
    show 2 + 6 < cs.length by omega
  rw [step, step, Text.startsWith_append hComment,
    startsTag_append hStart, startsTag_append hEnd]

/- A script in front of an end tag is read in front of any text. -/
theorem takeScript_append
    {s : ScriptState}
    {cs close : List Char}
    (hLong : 9 ≤ close.length)
    (hRead : takeScript s (cs ++ close) = (cs, close))
    (rest : List Char) :
    takeScript s (cs ++ (close ++ rest)) = (cs, close ++ rest) := by
  have hSame : ∀ ds : List Char, 9 ≤ ds.length →
      startsTag ['<', '/'] "script".toList (ds ++ rest) =
        startsTag ['<', '/'] "script".toList ds := by
    intro ds hds
    have hLength : ['<', '/'].length + "script".toList.length < ds.length :=
      show 2 + 6 < ds.length by omega
    exact startsTag_append hLength rest
  rw [← List.append_assoc]
  induction cs generalizing s with
  | nil =>
      rw [List.nil_append] at hRead ⊢
      cases close with
      | nil => simp at hLong
      | cons c close =>
          rw [takeScript] at hRead
          split at hRead
          · rename_i hEnd
            have hNow := hSame _ hLong
            rw [List.cons_append] at hNow ⊢
            rw [takeScript, hNow, if_pos hEnd]
          · cases hRead
  | cons c cs ih =>
      rw [List.cons_append] at hRead ⊢
      have hMore : 9 ≤ (c :: (cs ++ close)).length := by
        simp only [List.length_cons, List.length_append]
        omega
      have hNow := hSame _ hMore
      have hStep := s.step_append c hMore rest
      rw [List.cons_append] at hNow hStep ⊢
      rw [takeScript] at hRead ⊢
      split at hRead
      · cases hRead
      · rename_i hOn
        rcases hTake : takeScript (s.step c (c :: (cs ++ close)))
          (cs ++ close) with ⟨text, after⟩
        rw [hTake] at hRead
        cases hRead
        rw [hNow, if_neg hOn, hStep, ih hTake]

------------------------------------------------------------
-- The Next Token
------------------------------------------------------------

/- The names of elements whose text is read as it is written. -/
def rawNames : List String :=
  ["iframe", "noembed", "noframes", "script", "style", "xmp"]

/- How the text inside an element is read. -/
def rawMode (name : String) : TextMode :=
  if name == "script" then .script else .raw name.toList

/- The text of the element, and what follows it. -/
def takeRawFor (name : String) (cs : List Char) :
    List Char × List Char :=
  if name == "script" then takeScript ⟨0, 0⟩ cs
  else takeRaw name.toList cs

/- A text that is read up to the end tag of its element. -/
def isReadRaw (t : Tag) (cs : List Char) : Bool :=
  takeRawFor t.name (cs ++ t.writeEnd) == (cs, t.writeEnd)

theorem takeRawFor_append
    {t : Tag}
    {cs : List Char}
    (hRead : isReadRaw t cs = true)
    (rest : List Char) :
    takeRawFor t.name (cs ++ (t.writeEnd ++ rest)) =
      (cs, t.writeEnd ++ rest) := by
  have hLength : t.writeEnd.length = t.name.toList.length + 3 := by
    simp [Tag.writeEnd]
  rw [isReadRaw, beq_iff_eq] at hRead
  unfold takeRawFor at hRead ⊢
  split at hRead
  · rename_i hScript
    have hLong : 9 ≤ t.writeEnd.length := by
      rw [hLength, beq_iff_eq.mp hScript]
      decide
    rw [if_pos hScript, takeScript_append hLong hRead]
  · rename_i hOther
    rw [if_neg hOther, takeRaw_append (by omega) hRead]

/- In raw text, the text up to the end tag is the next token. -/
theorem next_rawMode
    (name : String)
    (foreign : Bool)
    (cs : List Char) :
    next (rawMode name) foreign cs =
      if (takeRawFor name cs).1 = [] then nextClosing (takeRawFor name cs).2
      else
        (classify ((takeRawFor name cs).1.map replaceNull),
          (takeRawFor name cs).2) := by
  unfold rawMode takeRawFor
  split
  · rw [next]
    rcases takeScript ⟨0, 0⟩ cs with ⟨text, rest⟩
    cases text <;> rfl
  · rw [next]
    rcases takeRaw name.toList cs with ⟨text, rest⟩
    cases text <;> rfl

theorem next_rawText
    {t : Tag}
    {foreign : Bool}
    {cs : List Char}
    (hRead : isReadRaw t cs = true)
    (hSome : cs ≠ [])
    (hNull : '\x00' ∉ cs)
    (rest : List Char) :
    next (rawMode t.name) foreign (cs ++ (t.writeEnd ++ rest)) =
      (classify cs, t.writeEnd ++ rest) := by
  have hSame : cs.map replaceNull = cs := by
    rw [List.map_congr_left (g := id), List.map_id]
    intro c hc
    rw [replaceNull, if_neg]
    · rfl
    · rw [beq_iff_eq]
      rintro rfl
      exact hNull hc
  rw [next_rawMode, takeRawFor_append hRead, if_neg hSome, hSame]

theorem next_rawEnd
    {t : Tag}
    {foreign : Bool}
    (hTag : isTagName t.name.toList = true)
    (hName : t.name ∈ rawNames)
    (rest : List Char) :
    next (rawMode t.name) foreign (t.writeEnd ++ rest) =
      ([.endTag t.name], rest) := by
  have hEmpty : isReadRaw t [] = true := by
    have hAll : ∀ n ∈ rawNames, isReadRaw ⟨.html, n, []⟩ [] = true := by
      decide
    exact hAll _ hName
  have hTake := takeRawFor_append hEmpty rest
  rw [List.nil_append] at hTake
  rw [next_rawMode, hTake, if_pos rfl, nextClosing]
  have hText : (t.writeEnd ++ rest).drop 2 =
      t.name.toList ++ '>' :: rest := by
    simp [Tag.writeEnd]
  rw [hText]
  exact nextEndTag_write hTag rest

------------------------------------------------------------
-- Reading Raw Text
------------------------------------------------------------

/- Inside raw text, and behind it inside the body. -/
structure StandsInText (b : Builder) (text : TextMode)
    (levels : List Level) : Prop where
  stands : Stands b ⟨.text, text⟩ levels
  back : b.returnMode = .inBody

namespace Stands

variable {b : Builder}
variable {level outer : Level}
variable {levels : List Level}
variable {t : StartTag}

/- Raw text is entered. -/
theorem enters_text
    (h : Stands b .body levels)
    (hKind : keepsFormatting (htmlTag t) = false)
    (text : TextMode) :
    ∃ c, (do insertTextElement t text; return Outcome.done :
        Build Outcome).run b = (.done, c) ∧
      StandsInText c text (⟨htmlTag t, []⟩ :: levels) := by
  have hOpen := h.enterPlain rfl hKind
  refine ⟨{ Build.enter b (htmlTag t) with
    returnMode := b.mode, mode := .text, textMode := text }, ?_,
    { hOpen with mode := rfl, textMode := rfl }, h.mode⟩
  rw [run_bind, insertTextElement, run_bind, h.run_insert]
  rfl

/- A start tag enters raw text behind steps that leave all open. -/
theorem consume_textStart
    (h : Stands b .body (level :: levels))
    (hKind : keepsFormatting (htmlTag t) = false)
    {before : Build Unit}
    {text : TextMode}
    (hStart : Rules.bodyStart t =
      (do before; insertTextElement t text; return .done))
    {c : Builder}
    (hBefore : before.run b = ((), c))
    (hc : Stands c .body (level :: levels)) :
    ∃ d, (consume (.startTag t)).run b = ((), d) ∧
      StandsInText d text (⟨htmlTag t, []⟩ :: level :: levels) := by
  rcases hc.enters_text hKind text with ⟨d, hRun, hd⟩
  refine ⟨d, h.consume_of_rules ?_, hd⟩
  rw [Phase.body, rulesOf, Rules.inBody, hStart, run_bind, hBefore]
  exact hRun

/- A start tag enters raw text by the rules of the head. -/
theorem consume_headStart
    (h : Stands b .body (level :: levels))
    (hKind : keepsFormatting (htmlTag t) = false)
    (hName : t.name ∈ ["noframes", "script", "style"]) :
    ∃ c, (consume (.startTag t)).run b = ((), c) ∧
      StandsInText c (rawMode t.name) (⟨htmlTag t, []⟩ :: level :: levels) := by
  have hStart : Rules.bodyStart t = pure (.rules .inHead) ∧
      Rules.inHead (.startTag t) =
        (do insertTextElement t (rawMode t.name); return .done) := by
    simp only [List.mem_cons, List.not_mem_nil, or_false] at hName
    rcases hName with hName | hName | hName
    all_goals
      constructor
      · unfold Rules.bodyStart
        rw [hName]
        rfl
      · unfold Rules.inHead
        dsimp only
        rw [hName]
        rfl
  rcases h.enters_text hKind (rawMode t.name) with ⟨c, hRun, hc⟩
  refine ⟨c, h.consume_of_inHead hStart.1 ?_, hc⟩
  rw [hStart.2]
  exact hRun

/- The start tag of an element that holds raw text. -/
theorem consume_rawStart
    (h : Stands b .body (level :: levels))
    (hName : t.name ∈ rawNames)
    (hNests : nestsIn t.name ((level :: levels).map (·.tag)) = true) :
    ∃ c, (consume (.startTag t)).run b = ((), c) ∧
      StandsInText c (rawMode t.name) (⟨htmlTag t, []⟩ :: level :: levels) := by
  have hKind : keepsFormatting (htmlTag t) = false := by
    have hAll : ∀ n ∈ rawNames,
        n ∉ ["applet", "caption", "marquee", "object", "td", "th"] := by
      decide
    exact keepsFormatting_htmlTag (hAll _ hName)
  have hSplit : ∀ n ∈ rawNames,
      n ∈ ["noframes", "script", "style"] ∨ n = "noembed" ∨
        n = "iframe" ∨ n = "xmp" := by
    decide
  rcases hSplit _ hName with hHead | hPlain | hFrame | hBlock
  · exact h.consume_headStart hKind hHead
  · have hStart : Rules.bodyStart t = (do
        pure ()
        insertTextElement t (rawMode t.name)
        return .done) := by
      unfold Rules.bodyStart
      rw [hPlain]
      rfl
    exact h.consume_textStart hKind hStart rfl h
  · have hStart : Rules.bodyStart t = (do
        Build.forbidFrameset
        insertTextElement t (rawMode t.name)
        return .done) := by
      unfold Rules.bodyStart
      rw [hFrame]
      rfl
    exact h.consume_textStart hKind hStart rfl h.forbidFrameset
  · have hStart : Rules.bodyStart t = (do
        (do closeParagraphInScope; reconstruct; Build.forbidFrameset)
        insertTextElement t (rawMode t.name)
        return .done) := by
      unfold Rules.bodyStart
      rw [hBlock]
      rfl
    have hEnder : t.name ∈ paragraphEnders := by
      rw [hBlock]
      decide
    refine h.consume_textStart hKind hStart ?_ h.forbidFrameset
    rw [run_bind, h.run_closeParagraphInScope hNests hEnder, run_bind,
      h.run_reconstruct]
    rfl

end Stands

namespace StandsInText

variable {b : Builder}
variable {text : TextMode}
variable {level outer : Level}
variable {levels : List Level}
variable {t : Tag}

theorem unskipped
    (h : StandsInText b text levels) :
    StandsInText { b with skipNewline := false } text levels :=
  ⟨h.stands.congr rfl, h.back⟩

/- A text token is added to the nodes. -/
theorem consume_text
    (h : StandsInText b text (level :: levels))
    {token : Token}
    (hText : Rules.isText token = true) :
    ∃ c, (consume token).run b = ((), c) ∧
      StandsInText c text
        (⟨level.tag, level.nodes ++ Node.letters token.shown⟩ ::
          levels) := by
  have hInsert : ∀ cs : List Char, ∃ c,
      (do insertText cs; return Outcome.done : Build Outcome).run b =
          (.done, c) ∧
        StandsInText c text
          (⟨level.tag, level.nodes ++ Node.letters cs⟩ :: levels) := by
    intro cs
    rcases h.stands.insertText cs with ⟨c, hRun, hc⟩
    have hBack : c.returnMode = .inBody := by
      rw [run_insertText cs h.stands.fostering] at hRun
      cases hRun
      exact h.back
    refine ⟨c, ?_, hc, hBack⟩
    rw [run_bind, hRun]
    rfl
  cases token with
  | null =>
      refine ⟨b, h.stands.consume_of_rules rfl, ?_⟩
      change StandsInText b text (⟨level.tag, level.nodes ++ []⟩ :: levels)
      rwa [List.append_nil]
  | blank cs =>
      rcases hInsert cs with ⟨c, hRun, hc⟩
      exact ⟨c, h.stands.consume_of_rules hRun, hc⟩
  | words cs =>
      rcases hInsert cs with ⟨c, hRun, hc⟩
      exact ⟨c, h.stands.consume_of_rules hRun, hc⟩
  | startTag t => cases hText
  | endTag name => cases hText
  | comment s => cases hText
  | doctype d => cases hText
  | eof => cases hText

theorem receiveAll_text
    (h : StandsInText b text (level :: levels))
    {tokens : List Token}
    (hText : ∀ token ∈ tokens, Rules.isText token = true)
    (hLine : '\n' ∉ tokens.flatMap Token.shown) :
    ∃ c, (receiveAll tokens).run b = ((), c) ∧
      StandsInText c text
        (⟨level.tag,
          level.nodes ++ Node.letters (tokens.flatMap Token.shown)⟩ ::
            levels) := by
  refine receiveAll_of_consume
    (P := fun b shown => StandsInText b text
      (⟨level.tag, level.nodes ++ Node.letters shown⟩ :: levels))
    ?_ ?_ hText hLine
  · intro b shown token hShown hToken
    rcases hShown.unskipped.consume_text hToken with ⟨c, hRun, hc⟩
    refine ⟨c, hRun, ?_⟩
    rwa [List.append_assoc, ← Node.letters_append] at hc
  · change StandsInText b text (⟨level.tag, level.nodes ++ []⟩ :: levels)
    rwa [List.append_nil]

/- The raw text of an element is read. -/
theorem reads_text
    (h : StandsInText b (rawMode t.name) (level :: levels))
    {cs : List Char}
    (hRead : isReadRaw t cs = true)
    (hNull : '\x00' ∉ cs)
    (hLine : '\n' ∉ cs)
    (rest : List Char) :
    ∃ c, Reads b (cs ++ (t.writeEnd ++ rest)) c (t.writeEnd ++ rest) ∧
      StandsInText c (rawMode t.name)
        (⟨level.tag, level.nodes ++ Node.letters cs⟩ :: levels) := by
  by_cases hNone : cs = []
  · subst hNone
    refine ⟨b, .refl b _, ?_⟩
    rw [Node.letters, List.map_nil, List.append_nil]
    exact h
  · have hShown := shown_classify hNull
    rcases h.receiveAll_text (fun _ => isText_of_mem_classify)
        (hShown.symm ▸ hLine) with
      ⟨c, hRun, hc⟩
    rw [hShown] at hc
    refine ⟨c, ?_, hc⟩
    have hAfter : textAfter (rawMode t.name) (classify cs) =
        rawMode t.name := by
      unfold textAfter
      split
      · rename_i hEmpty
        rw [hEmpty] at hShown
        exact absurd hShown.symm hNone
      · rename_i name rest hEnd
        have hText : Rules.isText (.endTag name) = true :=
          isText_of_mem_classify (hEnd ▸ List.mem_cons_self)
        cases hText
      · rfl
    have hSame : { b with
        textMode := textAfter (rawMode t.name) (classify cs) } = b := by
      rw [hAfter, show rawMode t.name = b.textMode from
        h.stands.textMode.symm]
    refine h.stands.reads_next ?_ (next_rawText hRead hNone hNull rest) ?_
      (hSame ▸ hRun)
    · unfold rawMode
      split <;> simp
    · have hLength := List.length_pos_of_ne_nil hNone
      simp only [List.length_append]
      omega

/- The end tag of an element that holds raw text is read. -/
theorem reads_close
    {nodes : List Node}
    (h : StandsInText b (rawMode t.name) (⟨t, nodes⟩ :: outer :: levels))
    (hTag : t.isWritten = true)
    (hName : t.name ∈ rawNames)
    (rest : List Char) :
    ∃ c, Reads b (t.writeEnd ++ rest) c rest ∧
      Stands c .body
        (⟨outer.tag, outer.nodes ++ [.element t nodes]⟩ :: levels) := by
  have hPlain : isFormatting t = false ∧ keepsFormatting t = false := by
    have hAll : ∀ n ∈ rawNames,
        ("a" :: "nobr" :: Rules.formattingNames).contains n = false ∧
          ["applet", "caption", "marquee", "object", "td", "th"].contains
            n = false := by
      decide
    rw [isFormatting, keepsFormatting, Tag.isHtmlIn, Tag.isHtmlIn,
      (hAll _ hName).1, (hAll _ hName).2, Bool.and_false]
    exact ⟨rfl, rfl⟩
  let b' : Builder := { b with textMode := .data, skipNewline := false }
  have hData : Stands b' ⟨.text, .data⟩ (⟨t, nodes⟩ :: outer :: levels) :=
    { h.stands with textMode := rfl }
  have hRules : (rulesOf .text (.endTag t.name)).run b' =
      (.done, { b' with openIds := b'.openIds.tail, mode := .inBody }) := by
    have hBack : b'.returnMode = .inBody := h.back
    rw [← hBack]
    rfl
  have hClosed := hData.closePlain hPlain.1 hPlain.2
  refine ⟨{ b' with openIds := b'.openIds.tail, mode := .inBody }, ?_,
    { hClosed with mode := rfl }⟩
  refine h.stands.reads_next ?_
    (next_rawEnd (Stands.isTagName_of_isWritten hTag) hName rest)
    (Stands.length_rest_lt _ _ _) ?_
  · unfold rawMode
    split <;> simp
  · exact hData.consume_of_rules hRules

end StandsInText

/- An element that holds raw text is read. -/
theorem Stands.reads_rawText
    {b : Builder}
    {level : Level}
    {levels : List Level}
    {t : Tag}
    (h : Stands b .body (level :: levels))
    (hTag : t.isWritten = true)
    (hName : t.name ∈ rawNames)
    (hNests : nestsIn t.name ((level :: levels).map (·.tag)) = true)
    {cs : List Char}
    (hRead : isReadRaw t cs = true)
    (hNull : '\x00' ∉ cs)
    (hLine : '\n' ∉ cs)
    (rest : List Char) :
    ∃ c, Reads b (t.writeStart ++ (cs ++ (t.writeEnd ++ rest))) c rest ∧
      Stands c .body
        (⟨level.tag,
          level.nodes ++ [.element t (Node.letters cs)]⟩ :: levels) := by
  rcases h.unskipped.consume_rawStart (t := t.start) hName hNests with
    ⟨c, hRun, hc⟩
  rw [htmlTag_start hTag] at hc
  have hStart : Reads b (t.writeStart ++ (cs ++ (t.writeEnd ++ rest))) c
      (cs ++ (t.writeEnd ++ rest)) := by
    refine h.reads_token (next_startTag hTag _) ?_ rfl hRun
    rw [writeStart_eq]
    exact Stands.length_rest_lt _ _ _
  rcases StandsInText.reads_text (t := t) hc hRead hNull hLine rest with
    ⟨d, hReadsText, hd⟩
  rcases StandsInText.reads_close hd hTag hName rest with ⟨e, hReadsEnd, he⟩
  exact ⟨e, hStart.trans (hReadsText.trans hReadsEnd), he⟩

end Markup

end Gleaner
