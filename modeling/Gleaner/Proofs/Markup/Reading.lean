import Gleaner.Proofs.Markup.EndTags
import Gleaner.Proofs.Markup.Tokens

/-
  Texts that are read by a construction which stands inside open
  elements: runs of text, comments, and the tags around them.

  Main declarations:
    * `Markup.receiveAll_of_consume`
    * `Markup.Reads`
    * `Markup.Stands.receiveAll_text`
    * `Markup.Stands.reads_text`
    * `Markup.Stands.reads_open`
    * `Markup.Stands.reads_void`
    * `Markup.Stands.reads_close`
    * `Markup.Stands.reads_lost`
    * `Markup.Stands.reads_comment`
-/

namespace Gleaner

namespace Markup

open Build

------------------------------------------------------------
-- Runs of Text
------------------------------------------------------------

/- The characters that a token of text shows. -/
def Token.shown : Token → List Char
  | .blank cs => cs
  | .words cs => cs
  | _ => []

theorem shown_addToRuns
    {c : Char}
    (hNull : c ≠ '\x00')
    (runs : List Token) :
    (addToRuns c runs).flatMap Token.shown =
      c :: runs.flatMap Token.shown := by
  have hClass : classOf c ≠ .null := by
    unfold classOf
    rw [if_neg (by simpa using hNull)]
    split <;> simp
  unfold addToRuns
  split
  · rename_i hNone
    exact absurd hNone hClass
  · rfl
  · rfl
  · rfl
  · rfl

/- The tokens of a text show the text. -/
theorem shown_classify
    {cs : List Char}
    (hNull : '\x00' ∉ cs) :
    (classify cs).flatMap Token.shown = cs := by
  induction cs with
  | nil => rfl
  | cons c cs ih =>
      rw [List.mem_cons, not_or] at hNull
      change (addToRuns c (classify cs)).flatMap Token.shown = c :: cs
      rw [shown_addToRuns (Ne.symm hNull.1), ih hNull.2]

/- The tokens of a text are texts. -/
theorem isText_of_mem_classify
    {cs : List Char}
    {token : Token}
    (hToken : token ∈ classify cs) :
    Rules.isText token = true := by
  induction cs with
  | nil => cases hToken
  | cons c cs ih =>
      have hAdd : ∀ {token : Token} {runs : List Token},
          token ∈ addToRuns c runs →
            Rules.isText token = true ∨ token ∈ runs := by
        intro token runs hIn
        unfold addToRuns at hIn
        split at hIn <;> rcases List.mem_cons.mp hIn with rfl | hIn
        all_goals
          first
            | exact .inl rfl
            | exact .inr hIn
            | exact .inr (List.mem_cons_of_mem _ hIn)
      rcases hAdd hToken with hText | hIn
      · exact hText
      · exact ih hIn

/- A text token without line feeds is read as it is. -/
theorem receive_of_text
    {b : Builder}
    {token : Token}
    (hText : Rules.isText token = true)
    (hLine : '\n' ∉ token.shown) :
    (receive token).run b =
      (consume token).run { b with skipNewline := false } := by
  have hSkip : skipFirst b.skipNewline token = some token := by
    unfold skipFirst
    split
    · exact absurd List.mem_cons_self hLine
    · rfl
  unfold receive
  simp only [run_bind, run_get, run_modify]
  split
  · cases hText
  · rw [hSkip]

/-
  What every text token preserves, a run of text preserves; `P`
  sees the characters that were shown so far.
-/
theorem receiveAll_of_consume
    {P : Builder → List Char → Prop}
    (hStep : ∀ {b shown token}, P b shown → Rules.isText token = true →
      ∃ c, (consume token).run { b with skipNewline := false } = ((), c) ∧
        P c (shown ++ token.shown))
    {b : Builder}
    (hStart : P b [])
    {tokens : List Token}
    (hText : ∀ token ∈ tokens, Rules.isText token = true)
    (hLine : '\n' ∉ tokens.flatMap Token.shown) :
    ∃ c, (receiveAll tokens).run b = ((), c) ∧
      P c (tokens.flatMap Token.shown) := by
  have hRun : ∀ {b shown}, P b shown →
      ∃ c, (receiveAll tokens).run b = ((), c) ∧
        P c (shown ++ tokens.flatMap Token.shown) := by
    clear hStart
    induction tokens with
    | nil =>
        intro b shown hShown
        exact ⟨b, rfl, by rwa [List.flatMap_nil, List.append_nil]⟩
    | cons token tokens ih =>
        intro b shown hShown
        rw [List.flatMap_cons, List.mem_append, not_or] at hLine
        have hToken := hText token List.mem_cons_self
        rcases hStep hShown hToken with ⟨c, hFirst, hc⟩
        rcases ih (fun t ht => hText t (List.mem_cons_of_mem _ ht))
            hLine.2 hc with
          ⟨d, hRest, hd⟩
        refine ⟨d, ?_, ?_⟩
        · rw [receiveAll, run_bind, receive_of_text hToken hLine.1,
            hFirst]
          exact hRest
        · rwa [List.flatMap_cons, ← List.append_assoc]
  simpa using hRun hStart

namespace Stands

variable {b : Builder}
variable {phase : Phase}
variable {level : Level}
variable {levels : List Level}

/- The tag that decides about foreign content is none of its tags. -/
theorem run_adjustedTag
    (h : Stands b phase (level :: levels)) :
    ∃ tag, adjustedTag.run b = (tag, b) ∧ tag.space = .html := by
  rw [adjustedTag, run_bind, run_get]
  dsimp only
  split
  · exact ⟨_, rfl, rfl⟩
  · refine ⟨level.tag, ?_, h.html _ List.mem_cons_self⟩
    rw [← h.tagOf_head]
    rfl

/- The rules for foreign elements apply to nothing here. -/
theorem run_isForeign
    (h : Stands b phase (level :: levels))
    (token : Token) :
    (Rules.isForeign token).run b = (false, b) := by
  rcases h.run_adjustedTag with ⟨tag, hTag, hSpace⟩
  rw [Rules.isForeign, run_bind, run_get]
  dsimp only
  split
  · rfl
  · rw [run_bind, hTag]
    simp only [Rules.isForeignBelow, hSpace]
    rfl

theorem run_allowsSections
    (h : Stands b phase (level :: levels)) :
    allowsSections.run b = (false, b) := by
  rcases h.run_adjustedTag with ⟨tag, hTag, hSpace⟩
  rw [allowsSections, run_bind, run_get]
  dsimp only
  split
  · rfl
  · rw [run_bind, hTag]
    dsimp only
    rw [hSpace]
    rfl

/- A token that is not looked at again is read. -/
theorem consume_of_once
    {token : Token}
    {c : Builder}
    (hOnce : (consumeOnce token).run b = (false, c)) :
    (consume token).run b = ((), c) := by
  rw [consume, run_bind, run_get]
  dsimp only
  rw [consumeWithin, run_bind, hOnce]
  rfl

/- A token is read by the rules of the mode. -/
theorem consume_of_rules
    (h : Stands b phase (level :: levels))
    {token : Token}
    {c : Builder}
    (hRules : (rulesOf phase.mode token).run b = (.done, c)) :
    (consume token).run b = ((), c) := by
  apply consume_of_once
  rw [consumeOnce, run_bind, h.run_isForeign]
  dsimp only
  rw [if_neg Bool.false_ne_true, run_bind, run_get, run_bind, h.mode,
    hRules]
  rfl

/-
  A token is read by the rules of another mode that the rules of
  the mode name.
-/
theorem consume_of_other
    (h : Stands b phase (level :: levels))
    {token : Token}
    {other : Mode}
    {c : Builder}
    (hRules : (rulesOf phase.mode token).run b = (.rules other, b))
    (hOther : (rulesOf other token).run b = (.done, c)) :
    (consume token).run b = ((), c) := by
  apply consume_of_once
  rw [consumeOnce, run_bind, h.run_isForeign]
  dsimp only
  rw [if_neg Bool.false_ne_true, run_bind, run_get, run_bind, h.mode,
    hRules]
  dsimp only
  rw [follow, run_bind, hOther]
  rfl

/- A start tag is read by the rules of the head. -/
theorem consume_of_inHead
    (h : Stands b .body (level :: levels))
    {t : StartTag}
    {c : Builder}
    (hBody : Rules.bodyStart t = pure (.rules .inHead))
    (hHead : (Rules.inHead (.startTag t)).run b = (.done, c)) :
    (consume (.startTag t)).run b = ((), c) := by
  have hRules : (rulesOf .inBody (.startTag t)).run b =
      (.rules .inHead, b) := by
    rw [rulesOf, Rules.inBody, hBody]
    rfl
  refine h.consume_of_other hRules ?_
  rw [rulesOf]
  exact hHead

/- A text token is added to the nodes. -/
theorem consume_text
    (h : Stands b .body (level :: levels))
    {token : Token}
    (hText : Rules.isText token = true) :
    ∃ c, (consume token).run b = ((), c) ∧
      Stands c .body
        (⟨level.tag, level.nodes ++ Node.letters token.shown⟩ ::
          levels) := by
  have hRules :
      ∃ c, (Rules.inBody token).run b = (.done, c) ∧
        Stands c .body
          (⟨level.tag, level.nodes ++ Node.letters token.shown⟩ ::
            levels) := by
    cases token with
    | null =>
        refine ⟨b, rfl, ?_⟩
        change Stands b .body (⟨level.tag, level.nodes ++ []⟩ :: levels)
        rw [List.append_nil]
        exact h
    | blank cs =>
        rcases h.insertText cs with ⟨c, hRun, hc⟩
        refine ⟨c, ?_, hc⟩
        rw [Rules.inBody, run_bind, Rules.bodyText, run_bind,
          h.run_reconstruct, run_bind, hRun]
        rfl
    | words cs =>
        rcases h.insertText cs with ⟨c, hRun, hc⟩
        refine ⟨_, ?_, hc.forbidFrameset⟩
        rw [Rules.inBody, run_bind, Rules.bodyText, run_bind,
          h.run_reconstruct, run_bind, hRun]
        rfl
    | startTag t => cases hText
    | endTag name => cases hText
    | comment s => cases hText
    | doctype d => cases hText
    | eof => cases hText
  rcases hRules with ⟨c, hRun, hc⟩
  exact ⟨c, h.consume_of_rules hRun, hc⟩

/- A run of text is added to the nodes. -/
theorem receiveAll_text
    (h : Stands b .body (level :: levels))
    {tokens : List Token}
    (hText : ∀ token ∈ tokens, Rules.isText token = true)
    (hLine : '\n' ∉ tokens.flatMap Token.shown) :
    ∃ c, (receiveAll tokens).run b = ((), c) ∧
      Stands c .body
        (⟨level.tag,
          level.nodes ++ Node.letters (tokens.flatMap Token.shown)⟩ ::
            levels) := by
  refine receiveAll_of_consume
    (P := fun b shown => Stands b .body
      (⟨level.tag, level.nodes ++ Node.letters shown⟩ :: levels))
    ?_ ?_ hText hLine
  · intro b shown token hShown hToken
    have hFree : Stands { b with skipNewline := false } .body
        (⟨level.tag, level.nodes ++ Node.letters shown⟩ :: levels) :=
      hShown.congr rfl
    rcases hFree.consume_text hToken with ⟨c, hRun, hc⟩
    refine ⟨c, hRun, ?_⟩
    rwa [List.append_assoc, ← Node.letters_append] at hc
  · change Stands b .body (⟨level.tag, level.nodes ++ []⟩ :: levels)
    rwa [List.append_nil]

end Stands

------------------------------------------------------------
-- Runs of the Reader
------------------------------------------------------------

/-
  The reader comes from one state and text to another state and
  text, whatever bound is set.
-/
def Reads (b : Builder) (cs : List Char) (c : Builder)
    (rest : List Char) : Prop :=
  ∀ left, cs.length < left →
    ∃ left', rest.length < left' ∧
      (runWithin left cs).run b = (runWithin left' rest).run c

theorem Reads.refl (b : Builder) (cs : List Char) : Reads b cs b cs :=
  fun left hLeft => ⟨left, hLeft, rfl⟩

theorem Reads.trans
    {b c d : Builder}
    {cs ds es : List Char}
    (h : Reads b cs c ds)
    (hNext : Reads c ds d es) :
    Reads b cs d es := by
  intro left hLeft
  rcases h left hLeft with ⟨left', hLeft', hRun⟩
  rcases hNext left' hLeft' with ⟨left'', hLeft'', hRun'⟩
  exact ⟨left'', hLeft'', hRun.trans hRun'⟩

/- How text is read behind some tokens: an end tag ends raw text. -/
def textAfter (text : TextMode) : List Token → TextMode
  | [] => .data
  | .endTag _ :: _ => .data
  | _ => text

theorem textAfter_data (tokens : List Token) :
    textAfter .data tokens = .data := by
  unfold textAfter
  split <;> rfl

/- The next tokens of a text are received. -/
theorem Stands.reads_next
    {b c : Builder}
    {phase : Phase}
    {level : Level}
    {levels : List Level}
    (h : Stands b phase (level :: levels))
    (hPlain : phase.text ≠ .plain)
    {cs rest : List Char}
    {tokens : List Token}
    (hNext : next phase.text false cs = (tokens, rest))
    (hShort : rest.length < cs.length)
    (hRun :
      (receiveAll tokens).run
        { b with textMode := textAfter phase.text tokens } = ((), c)) :
    Reads b cs c rest := by
  intro left hLeft
  cases left with
  | zero => omega
  | succ left =>
      refine ⟨left, by omega, ?_⟩
      cases cs with
      | nil => cases hShort
      | cons x xs =>
          have hReceived : ∀ {text : TextMode},
              textAfter phase.text tokens = text →
                (do receiveAll tokens; runWithin left rest : Build Unit).run
                    { b with textMode := text } =
                  (runWithin left rest).run c := by
            rintro text rfl
            rw [run_bind, hRun]
          rw [runWithin, run_bind, run_get, run_bind,
            h.run_allowsSections]
          · simp only [h.textMode, hNext]
            rw [if_pos (by simpa using hPlain), run_bind, run_modify]
            split
            · rename_i hData
              exact hReceived (hData ▸ textAfter_data _)
            · exact hReceived rfl
            · exact hReceived rfl
            · rename_i hNone hEnd hData
              refine hReceived ?_
              unfold textAfter
              split
              · exact absurd rfl hEnd
              · exact absurd rfl (hNone _ _)
              · rfl
          · exact List.cons_ne_nil x xs

/- The next tokens in front of a text or a tag are received. -/
theorem Stands.reads_data
    {b c : Builder}
    {level : Level}
    {levels : List Level}
    (h : Stands b .body (level :: levels))
    {cs rest : List Char}
    {tokens : List Token}
    (hNext : next .data false cs = (tokens, rest))
    (hShort : rest.length < cs.length)
    (hRun : (receiveAll tokens).run b = ((), c)) :
    Reads b cs c rest := by
  refine h.reads_next (by decide) hNext hShort ?_
  have hSame : { b with textMode := textAfter .data tokens } = b := by
    rw [textAfter_data, show TextMode.data = b.textMode from h.textMode.symm]
  exact hSame ▸ hRun

------------------------------------------------------------
-- Texts and Tags that Are Read
------------------------------------------------------------

namespace Stands

variable {b : Builder}
variable {level outer root : Level}
variable {levels : List Level}
variable {t : Tag}

/- A text in front of a bracket, or at the end, is read. -/
theorem reads_text
    (h : Stands b .body (level :: levels))
    {text rest : List Char}
    (hNull : '\x00' ∉ text)
    (hLine : '\n' ∉ text)
    (hRest : ∀ c ∈ rest.head?, c = '<') :
    ∃ c, Reads b (text.flatMap escapeText ++ rest) c rest ∧
      Stands c .body
        (⟨level.tag, level.nodes ++ Node.letters text⟩ :: levels) := by
  by_cases hNone : text = []
  · subst hNone
    refine ⟨b, .refl b rest, ?_⟩
    rw [Node.letters, List.map_nil, List.append_nil]
    exact h
  · have hShown := shown_classify hNull
    rcases h.receiveAll_text (fun _ => isText_of_mem_classify)
        (hShown.symm ▸ hLine) with
      ⟨c, hRun, hc⟩
    rw [hShown] at hc
    rw [← decodeReferences_escapeText text] at hRun
    have hSome := flatMap_escapeText_ne_nil hNone
    refine ⟨c, h.reads_data
      (next_text (not_mem_flatMap_escapeText (.inl rfl) text) hSome hRest) ?_ hRun, hc⟩
    have hLength := List.length_pos_of_ne_nil hSome
    rw [List.length_append]
    omega

/- A token that is neither text nor a document type is read alone. -/
theorem reads_token
    (h : Stands b .body (level :: levels))
    {token : Token}
    {cs rest : List Char}
    {c : Builder}
    (hNext : next .data false cs = ([token], rest))
    (hShort : rest.length < cs.length)
    (hOther : (receive token).run b =
      (consume token).run { b with skipNewline := false })
    (hRun : (consume token).run { b with skipNewline := false } =
      ((), c)) :
    Reads b cs c rest := by
  refine h.reads_data hNext hShort ?_
  rw [receiveAll, run_bind, hOther, hRun]
  rfl

theorem unskipped
    (h : Stands b .body levels) :
    Stands { b with skipNewline := false } .body levels :=
  h.congr rfl

theorem length_rest_lt (cs rest : List Char) (c : Char) :
    rest.length < (c :: cs ++ rest).length := by
  rw [List.cons_append, List.length_cons, List.length_append]
  omega

/- A start tag that closes nothing is read. -/
theorem reads_open
    (h : Stands b .body (level :: levels))
    (hTag : t.isWritten = true)
    (hOpen : isOpenable t.name = true)
    (hNests : nestsIn t.name ((level :: levels).map (·.tag)) = true)
    (rest : List Char) :
    ∃ c, Reads b (t.writeStart ++ rest) c rest ∧
      Stands c .body (⟨t, []⟩ :: level :: levels) := by
  rcases h.unskipped.bodyStart_open (t := t.start) hOpen hNests with
    ⟨c, hRun, hc⟩
  rw [htmlTag_start hTag] at hc
  refine ⟨c, ?_, hc⟩
  refine h.reads_token (next_startTag hTag rest) ?_ rfl
    (h.unskipped.consume_of_rules hRun)
  rw [writeStart_eq]
  exact length_rest_lt _ _ _

/- The names of elements without content. -/
def bodyVoids : List String :=
  ["area", "br", "embed", "hr", "img", "input", "keygen", "param",
    "source", "track", "wbr"]

/- The names of elements without content that belong into a head. -/
def headVoids : List String :=
  ["base", "basefont", "bgsound", "link", "meta"]

theorem consume_headVoid
    (h : Stands b .body (level :: levels))
    {t : StartTag}
    (hName : t.name ∈ headVoids) :
    ∃ c, (consume (.startTag t)).run b = ((), c) ∧
      Stands c .body
        (⟨level.tag, level.nodes ++ [.element (htmlTag t) []]⟩ ::
          levels) := by
  have hStart : Rules.bodyStart t = pure (.rules .inHead) ∧
      Rules.inHead (.startTag t) =
        (do let _ ← insertClosed t; return .done) := by
    simp only [headVoids, List.mem_cons, List.not_mem_nil, or_false]
      at hName
    rcases hName with hName | hName | hName | hName | hName
    all_goals
      constructor
      · unfold Rules.bodyStart
        rw [hName]
        rfl
      · unfold Rules.inHead
        dsimp only
        rw [hName]
        rfl
  rcases h.adds_insertClosed (t := t) with ⟨c, hRun, hc⟩
  refine ⟨c, h.consume_of_inHead hStart.1 ?_, hc⟩
  rw [hStart.2]
  exact hRun

/- The start tag of an element without content is read. -/
theorem reads_void
    (h : Stands b .body (level :: levels))
    (hTag : t.isWritten = true)
    (hName : t.name ∈ bodyVoids ++ headVoids)
    (hNests : nestsIn t.name ((level :: levels).map (·.tag)) = true)
    (rest : List Char) :
    ∃ c, Reads b (t.writeStart ++ rest) c rest ∧
      Stands c .body
        (⟨level.tag, level.nodes ++ [.element t []]⟩ :: levels) := by
  have hConsumed :
      ∃ c, (consume (.startTag t.start)).run
          { b with skipNewline := false } = ((), c) ∧
        Stands c .body
          (⟨level.tag, level.nodes ++ [.element (htmlTag t.start) []]⟩ ::
            levels) := by
    rcases List.mem_append.mp hName with hBody | hHead
    · rcases h.unskipped.bodyStart_void (t := t.start) hNests hBody with
        ⟨c, hRun, hc⟩
      exact ⟨c, h.unskipped.consume_of_rules hRun, hc⟩
    · exact h.unskipped.consume_headVoid hHead
  rcases hConsumed with ⟨c, hRun, hc⟩
  rw [htmlTag_start hTag] at hc
  refine ⟨c, ?_, hc⟩
  refine h.reads_token (next_startTag hTag rest) ?_ rfl hRun
  rw [writeStart_eq]
  exact length_rest_lt _ _ _

theorem isTagName_of_isWritten
    (hTag : t.isWritten = true) :
    isTagName t.name.toList = true := by
  simp only [Tag.isWritten, Bool.and_eq_true] at hTag
  exact hTag.1.1.2

/- The end tag of the innermost element is read. -/
theorem reads_close
    (h : Stands b .body (level :: outer :: levels))
    (hTag : level.tag.isWritten = true)
    (hOpen : isOpenable level.tag.name = true)
    (rest : List Char) :
    ∃ c, Reads b (level.tag.writeEnd ++ rest) c rest ∧
      Stands c .body
        (⟨outer.tag, outer.nodes ++ [.element level.tag level.nodes]⟩ ::
          levels) := by
  rcases h.unskipped.bodyEnd_open rfl hOpen with ⟨c, hRun, hc⟩
  refine ⟨c, ?_, hc⟩
  exact h.reads_token (next_endTag (isTagName_of_isWritten hTag) rest)
    (length_rest_lt _ _ _) rfl (h.unskipped.consume_of_rules hRun)

/- An end tag where nothing is open is read and lost. -/
theorem reads_lost
    (h : Stands b .body [root])
    (hTag : t.isWritten = true)
    (hName : t.name ∉ ["template", "body", "html", "form", "br"])
    (rest : List Char) :
    ∃ c nodes, Reads b (t.writeEnd ++ rest) c rest ∧
      Stands c .body [⟨root.tag, root.nodes ++ nodes⟩] ∧
      Node.Alike nodes [] := by
  rcases h.unskipped.bodyEnd_lost hName with ⟨c, nodes, hRun, hc, hAlike⟩
  refine ⟨c, nodes, ?_, hc, hAlike⟩
  exact h.reads_token (next_endTag (isTagName_of_isWritten hTag) rest)
    (length_rest_lt _ _ _) rfl (h.unskipped.consume_of_rules hRun)

/- A comment is read. -/
theorem reads_comment
    (h : Stands b .body (level :: levels))
    {cs rest : List Char}
    (hRest : (takeComment .start cs).2 = rest)
    (hShort : rest.length ≤ cs.length) :
    ∃ c, Reads b ('<' :: '!' :: '-' :: '-' :: cs) c rest ∧
      Stands c .body (level :: levels) := by
  let content : String := String.ofList (takeComment .start cs).1
  let b' : Builder := { b with skipNewline := false }
  have hFree : Stands b' .body (level :: levels) := h.unskipped
  have hRun : (rulesOf .inBody (.comment content)).run b' =
      (.done, put b' (.comment content)) := by
    rw [rulesOf, Rules.inBody, run_bind, run_insertComment content hFree.fostering]
    rfl
  refine ⟨_, ?_, hFree.putComment content⟩
  have hNext : next .data false ('<' :: '!' :: '-' :: '-' :: cs) =
      ([.comment content], rest) := by
    rw [next_comment, hRest]
  refine h.reads_token hNext ?_ rfl (hFree.consume_of_rules hRun)
  simp only [List.length_cons]
  omega

end Stands

end Markup

end Gleaner
