import Gleaner.Proofs.Markup.RawText

/-
  Nodes that are written so that they are read back where they
  stand.

  Main declarations:
    * `Markup.isReadComment`
    * `Markup.isReadWhole`
    * `Markup.Node.nests`
    * `Markup.Within`
    * `Markup.Node.nests_of_within`
    * `Markup.Stands.reads_node`
    * `Markup.Stands.reads_all`
-/

namespace Gleaner

namespace Markup

------------------------------------------------------------
-- Comments
------------------------------------------------------------

/- A comment that is read up to its end: a mark behind it is left. -/
def isReadComment (cs : List Char) : Bool :=
  (takeComment .start (cs ++ ['-', '-', '>', '<'])).2 == ['<']

/- A character ends a comment, or the reader goes on behind it. -/
theorem takeComment_cons (state : CommentState) (c : Char) :
    (∃ read, ∀ rest, takeComment state (c :: rest) = (read, rest)) ∨
      ∃ next read, ∀ rest,
        takeComment state (c :: rest) =
          addToComment read (takeComment next rest) := by
  by_cases hEnd : (c == '>') = true
  · cases state with
    | text =>
        refine .inr ⟨.text, [replaceNull c], fun rest => ?_⟩
        rw [beq_iff_eq] at hEnd
        subst hEnd
        rfl
    | dash =>
        refine .inr ⟨.text, ['-', replaceNull c], fun rest => ?_⟩
        rw [beq_iff_eq] at hEnd
        subst hEnd
        rfl
    | _ => exact .inl ⟨[], fun rest => by rw [takeComment, if_pos hEnd]⟩
  · by_cases hDash : (c == '-') = true
    · rw [beq_iff_eq] at hDash
      subst hDash
      cases state with
      | start => exact .inr ⟨.startDash, [], fun _ => rfl⟩
      | startDash => exact .inr ⟨.dashes, [], fun _ => rfl⟩
      | text => exact .inr ⟨.dash, [], fun _ => rfl⟩
      | dash => exact .inr ⟨.dashes, [], fun _ => rfl⟩
      | dashes => exact .inr ⟨.dashes, ['-'], fun _ => rfl⟩
      | bang => exact .inr ⟨.dash, ['-', '-', '!'], fun _ => rfl⟩
    · cases state with
      | start =>
          exact .inr ⟨.text, [replaceNull c], fun _ => by
            rw [takeComment, if_neg hEnd, if_neg hDash]⟩
      | startDash =>
          exact .inr ⟨.text, ['-', replaceNull c], fun _ => by
            rw [takeComment, if_neg hEnd, if_neg hDash]⟩
      | text =>
          exact .inr ⟨.text, [replaceNull c], fun _ => by
            rw [takeComment, if_neg hDash]⟩
      | dash =>
          exact .inr ⟨.text, ['-', replaceNull c], fun _ => by
            rw [takeComment, if_neg hDash]⟩
      | dashes =>
          by_cases hBang : (c == '!') = true
          · exact .inr ⟨.bang, [], fun _ => by
              rw [takeComment, if_neg hEnd, if_pos hBang]
              rfl⟩
          · exact .inr ⟨.text, ['-', '-', replaceNull c], fun _ => by
              rw [takeComment, if_neg hEnd, if_neg hBang, if_neg hDash]⟩
      | bang =>
          exact .inr ⟨.text, ['-', '-', '!', replaceNull c], fun _ => by
            rw [takeComment, if_neg hEnd, if_neg hDash]⟩

/- A reader that leaves one character leaves any text in its place. -/
theorem takeComment_append
    {state : CommentState}
    {cs : List Char}
    {c : Char}
    (hEnd : (takeComment state (cs ++ [c])).2 = [c])
    (rest : List Char) :
    (takeComment state (cs ++ rest)).2 = rest := by
  induction cs generalizing state with
  | nil =>
      rw [List.nil_append] at hEnd
      rcases takeComment_cons state c with ⟨read, hStep⟩ | ⟨next, read, hStep⟩
      · rw [hStep] at hEnd
        cases hEnd
      · rw [hStep] at hEnd
        cases next <;> cases hEnd
  | cons d cs ih =>
      rw [List.cons_append] at hEnd ⊢
      rcases takeComment_cons state d with ⟨read, hStep⟩ | ⟨next, read, hStep⟩
      · rw [hStep] at hEnd ⊢
        have hNone : cs = [] := by
          simpa using hEnd
        rw [hNone]
        rfl
      · rw [hStep] at hEnd ⊢
        exact ih hEnd

------------------------------------------------------------
-- Nodes
------------------------------------------------------------

/- The node is a text. -/
def Node.isText : Node → Bool
  | .text _ => true
  | _ => false

/- No element stands inside the element. -/
def holdsNoElement (t : Tag) : Bool :=
  isVoid t || holdsRawText t

/-
  An element that is read at once: it has no content, or its
  content is raw text that its own end tag ends.
-/
def isReadWhole (t : Tag) (children : List Node) : Bool :=
  if isVoid t then
    children.isEmpty &&
      (Stands.bodyVoids ++ Stands.headVoids).contains t.name
  else
    rawNames.contains t.name && children.all Node.isText &&
      isReadRaw t (Node.textContentAll children)

mutual

/-
  The tags of a node and of what is below it are read as they are
  written, and none of them closes an element that is open.
-/
def Node.nests (above : List Tag) : Node → Bool
  | .text _ => true
  | .comment s => isReadComment s.toList
  | .element t children =>
      t.isWritten && nestsIn t.name above &&
        if holdsNoElement t then isReadWhole t children
        else isOpenable t.name && nestsAll (t :: above) children

/- All of some nodes are read as they are written. -/
def Node.nestsAll (above : List Tag) : List Node → Bool
  | [] => true
  | node :: rest => nests above node && nestsAll above rest

end

/- What is known of an element that is opened. -/
theorem Node.nests_opened
    {above : List Tag}
    {t : Tag}
    {children : List Node}
    (hNests : (Node.element t children).nests above = true)
    (hKind : holdsNoElement t = false) :
    t.isWritten = true ∧ nestsIn t.name above = true ∧
      isOpenable t.name = true ∧ nestsAll (t :: above) children = true := by
  rw [nests, hKind, if_neg Bool.false_ne_true, Bool.and_eq_true,
    Bool.and_eq_true, Bool.and_eq_true] at hNests
  exact ⟨hNests.1.1, hNests.1.2, hNests.2⟩

theorem Node.write_opened
    {t : Tag}
    (hKind : holdsNoElement t = false)
    (children : List Node) :
    (Node.element t children).write false =
      t.writeStart ++ writeAll false children ++ t.writeEnd := by
  rw [holdsNoElement, Bool.or_eq_false_iff] at hKind
  rw [write, hKind.1, hKind.2, if_neg Bool.false_ne_true]

/- No tag closes more among the few tags than among the others. -/
def Within (few above : List Tag) : Prop :=
  ∀ name, ∀ barrier ∈ barriers name,
    reaches barrier.1 barrier.2 above = false →
      reaches barrier.1 barrier.2 few = false

theorem Within.cons
    {few above : List Tag}
    (h : Within few above)
    (t : Tag) :
    Within (t :: few) (t :: above) := by
  intro name barrier hBarrier hNone
  rw [reaches, Bool.or_eq_false_iff, Bool.and_eq_false_iff] at hNone ⊢
  exact ⟨hNone.1, hNone.2.imp_right (h name barrier hBarrier)⟩

theorem Within.of_isPrefix
    {few above : List Tag}
    (hFew : few <+: above) :
    Within few above :=
  fun _ _ _ hNone => reaches_eq_false_of_prefix hFew hNone

/- The outermost element is not closed. -/
theorem Within.concat
    (above : List Tag)
    {root : Tag}
    (hRoot : root.name = "html") :
    Within (above ++ [root]) above := by
  intro name barrier hBarrier hNone
  rw [reaches_concat (not_wanted_of_mem_barriers hBarrier hRoot)]
  exact hNone

theorem Within.nestsIn
    {few above : List Tag}
    (h : Within few above)
    {name : String}
    (hNests : nestsIn name above = true) :
    Markup.nestsIn name few = true := by
  unfold Markup.nestsIn at hNests ⊢
  rw [List.all_eq_true] at hNests ⊢
  intro barrier hBarrier
  have hNone := hNests barrier hBarrier
  rw [Bool.not_eq_true'] at hNone ⊢
  exact h name barrier hBarrier hNone

mutual

theorem Node.nests_of_within
    (node : Node)
    {few above : List Tag}
    (h : Within few above)
    (hNests : node.nests above = true) :
    node.nests few = true := by
  cases node with
  | text s => rfl
  | comment s => exact hNests
  | element t children =>
      rw [nests, Bool.and_eq_true, Bool.and_eq_true] at hNests ⊢
      rcases hNests with ⟨⟨hTag, hIn⟩, hBelow⟩
      refine ⟨⟨hTag, h.nestsIn hIn⟩, ?_⟩
      split at hBelow
      · rename_i hVoid
        rwa [if_pos hVoid]
      · rename_i hVoid
        rw [Bool.and_eq_true] at hBelow
        rw [if_neg hVoid, Bool.and_eq_true]
        exact ⟨hBelow.1,
          nestsAll_of_within children (h.cons t) hBelow.2⟩

/- Nodes that close nothing close nothing among fewer elements. -/
theorem Node.nestsAll_of_within
    (nodes : List Node)
    {few above : List Tag}
    (h : Within few above)
    (hNests : nestsAll above nodes = true) :
    nestsAll few nodes = true := by
  cases nodes with
  | nil => rfl
  | cons node rest =>
      rw [nestsAll, Bool.and_eq_true] at hNests ⊢
      exact ⟨nests_of_within node h hNests.1,
        nestsAll_of_within rest h hNests.2⟩

end

------------------------------------------------------------
-- Reading Nodes
------------------------------------------------------------

/- Texts inside raw text are written as they are. -/
theorem writeAll_of_isText
    {nodes : List Node}
    (hTexts : nodes.all Node.isText = true) :
    Node.writeAll true nodes = Node.textContentAll nodes := by
  induction nodes with
  | nil => rfl
  | cons node nodes ih =>
      rw [List.all_cons, Bool.and_eq_true] at hTexts
      cases node with
      | text s =>
          rw [Node.writeAll, ih hTexts.2, Node.textContentAll]
          rfl
      | comment s => cases hTexts.1
      | element t children => cases hTexts.1

/- Texts show the same as their characters. -/
theorem alike_letters_of_isText
    {nodes : List Node}
    (hTexts : nodes.all Node.isText = true) :
    Node.Alike (Node.letters (Node.textContentAll nodes)) nodes := by
  induction nodes with
  | nil => exact .refl _
  | cons node nodes ih =>
      rw [List.all_cons, Bool.and_eq_true] at hTexts
      cases node with
      | text s =>
          rw [Node.textContentAll, Node.letters_append]
          exact (Node.alike_letters s).symm.append (ih hTexts.2)
      | comment s => cases hTexts.1
      | element t children => cases hTexts.1

/- A node that is no text is written between brackets. -/
theorem exists_write_eq
    {node : Node}
    (hNode : ∀ s, node ≠ .text s) :
    ∃ cs, node.write false = '<' :: (cs ++ ['>']) := by
  cases node with
  | text s => exact absurd rfl (hNode s)
  | comment s =>
      exact ⟨['!', '-', '-'] ++ s.toList ++ ['-', '-'],
        by simp [Node.write]⟩
  | element t children =>
      rw [Node.write]
      split
      · exact ⟨_, rfl⟩
      · exact ⟨t.name.toList ++ t.attributes.flatMap Attribute.write ++
          ['>'] ++ Node.writeAll (holdsRawText t) children ++
            ['<', '/'] ++ t.name.toList,
          by simp [Tag.writeStart, Tag.writeEnd]⟩

/- A node that is no text starts with a bracket. -/
theorem head?_write
    {node : Node}
    (hNode : ∀ s, node ≠ .text s)
    (rest : List Char) :
    ∀ c ∈ (node.write false ++ rest).head?, c = '<' := by
  rcases exists_write_eq hNode with ⟨cs, hWrite⟩
  rw [hWrite]
  rintro c ⟨⟩
  rfl

/- A text without null characters and line feeds is written so. -/
theorem not_mem_of_flatMap_escapeText
    {d : Char}
    (hPlain : escapeText d = [d])
    {cs : List Char}
    (hNone : d ∉ cs.flatMap escapeText) :
    d ∉ cs := by
  intro hd
  exact hNone (List.mem_flatMap.mpr
    ⟨d, hd, hPlain ▸ List.mem_singleton_self d⟩)

/- The characters are neither null characters nor line feeds. -/
def IsLine (cs : List Char) : Prop :=
  '\x00' ∉ cs ∧ '\n' ∉ cs

theorem isLine_append {cs ds : List Char} :
    IsLine (cs ++ ds) ↔ IsLine cs ∧ IsLine ds := by
  simp only [IsLine, List.mem_append, not_or]
  constructor
  · rintro ⟨⟨h1, h2⟩, h3, h4⟩
    exact ⟨⟨h1, h3⟩, h2, h4⟩
  · rintro ⟨⟨h1, h3⟩, h2, h4⟩
    exact ⟨⟨h1, h2⟩, h3, h4⟩

namespace Stands

open Node

/- An element that is read at once. -/
theorem reads_whole
    {b : Builder}
    {level : Level}
    {levels : List Level}
    (h : Stands b .body (level :: levels))
    {t : Tag}
    {children : List Node}
    (hTag : t.isWritten = true)
    (hIn : nestsIn t.name ((level :: levels).map (·.tag)) = true)
    (hWhole : isReadWhole t children = true)
    (hLine : IsLine ((Node.element t children).write false))
    (rest : List Char) :
    ∃ c added,
      Reads b ((Node.element t children).write false ++ rest) c rest ∧
      Stands c .body (⟨level.tag, level.nodes ++ added⟩ :: levels) ∧
      Alike added [.element t children] := by
  unfold isReadWhole at hWhole
  split at hWhole
  · rename_i hVoid
    rw [Bool.and_eq_true, List.isEmpty_iff, List.contains_iff_mem]
      at hWhole
    rcases hWhole with ⟨rfl, hName⟩
    rcases h.reads_void hTag hName hIn rest with ⟨c, hReads, hc⟩
    refine ⟨c, [.element t []], ?_, hc, .refl _⟩
    rwa [write, if_pos hVoid]
  · rename_i hVoid
    rw [Bool.and_eq_true, Bool.and_eq_true, List.contains_iff_mem]
      at hWhole
    rcases hWhole with ⟨⟨hName, hTexts⟩, hRead⟩
    have hRaw : holdsRawText t = true := by
      have hAll : ∀ n ∈ rawNames, n ∈ rawTextNames := by decide
      simp only [Tag.isWritten, Bool.and_eq_true, beq_iff_eq] at hTag
      rw [holdsRawText, Tag.isHtmlIn, hTag.1.1.1, Bool.and_eq_true,
        List.contains_iff_mem]
      exact ⟨rfl, hAll _ hName⟩
    rw [write, if_neg hVoid, hRaw, writeAll_of_isText hTexts,
      isLine_append, isLine_append] at hLine
    rcases h.reads_rawText hTag hName hIn hRead hLine.1.2.1 hLine.1.2.2
        rest with
      ⟨c, hReads, hc⟩
    refine ⟨c, [.element t (letters (textContentAll children))], ?_, hc,
      (alike_letters_of_isText hTexts).element t⟩
    rwa [write, if_neg hVoid, hRaw, writeAll_of_isText hTexts,
      List.append_assoc, List.append_assoc]

mutual

/- A node that is no text is read, whatever follows it. -/
theorem reads_node
    (node : Node)
    {b : Builder}
    {level : Level}
    {levels : List Level}
    (hNode : ∀ s, node ≠ .text s)
    (h : Stands b .body (level :: levels))
    (hNests : node.nests ((level :: levels).map (·.tag)) = true)
    (hLine : IsLine (node.write false))
    (rest : List Char) :
    ∃ c added, Reads b (node.write false ++ rest) c rest ∧
      Stands c .body (⟨level.tag, level.nodes ++ added⟩ :: levels) ∧
      Alike added [node] := by
  cases node with
  | text s => exact absurd rfl (hNode s)
  | comment s =>
      have hRest : (takeComment .start
          (s.toList ++ ['-', '-', '>'] ++ rest)).2 = rest := by
        apply takeComment_append (c := '<')
        rw [nests, isReadComment, beq_iff_eq] at hNests
        simpa using hNests
      rcases h.reads_comment hRest (by simp; omega) with ⟨c, hReads, hc⟩
      refine ⟨c, [], ?_, ?_, ⟨rfl, rfl, rfl⟩⟩
      · simpa [write] using hReads
      · rwa [List.append_nil]
  | element t children =>
      by_cases hKind : holdsNoElement t = true
      · rw [nests, if_pos hKind, Bool.and_eq_true, Bool.and_eq_true]
          at hNests
        exact h.reads_whole hNests.1.1 hNests.1.2 hNests.2 hLine rest
      · rw [Bool.not_eq_true] at hKind
        rcases nests_opened hNests hKind with ⟨hTag, hIn, hOpen, hBelow⟩
        rw [write_opened hKind] at hLine ⊢
        rw [isLine_append, isLine_append] at hLine
        rcases h.reads_open hTag hOpen hIn
            (writeAll false children ++ (t.writeEnd ++ rest)) with
          ⟨c, hReads, hc⟩
        rcases reads_all children [] hc hBelow ⟨by simp, by simp⟩
            hLine.1.2
            (show ∀ x ∈ (t.writeEnd ++ rest).head?, x = '<' by
              simp [Tag.writeEnd]) with
          ⟨d, added, hReadsBelow, hd, hAlike⟩
        rcases hd.reads_close hTag hOpen rest with ⟨e, hReadsEnd, he⟩
        refine ⟨e, [.element t added], ?_, he, hAlike.element t⟩
        rw [List.append_assoc, List.append_assoc]
        exact hReads.trans (hReadsBelow.trans hReadsEnd)

/-
  Nodes are read in front of a tag.  The characters that are not
  read yet belong to the text that the nodes may start with.
-/
theorem reads_all
    (nodes : List Node)
    {b : Builder}
    {level : Level}
    {levels : List Level}
    (pending : List Char)
    (h : Stands b .body (level :: levels))
    (hNests : nestsAll ((level :: levels).map (·.tag)) nodes = true)
    (hPending : IsLine pending)
    (hLine : IsLine (writeAll false nodes))
    {rest : List Char}
    (hRest : ∀ c ∈ rest.head?, c = '<') :
    ∃ c added,
      Reads b (pending.flatMap escapeText ++ (writeAll false nodes ++ rest))
        c rest ∧
      Stands c .body (⟨level.tag, level.nodes ++ added⟩ :: levels) ∧
      Alike added (letters pending ++ nodes) := by
  cases nodes with
  | nil =>
      rcases h.reads_text hPending.1 hPending.2 hRest with ⟨c, hReads, hc⟩
      refine ⟨c, letters pending, hReads, hc, ?_⟩
      rw [List.append_nil]
      exact .refl _
  | cons node nodes =>
      rw [nestsAll, Bool.and_eq_true] at hNests
      rw [writeAll, isLine_append] at hLine
      by_cases hNode : ∃ s, node = .text s
      · rcases hNode with ⟨s, rfl⟩
        have hText : IsLine s.toList :=
          ⟨not_mem_of_flatMap_escapeText (by decide) hLine.1.1,
            not_mem_of_flatMap_escapeText (by decide) hLine.1.2⟩
        rcases reads_all nodes (pending ++ s.toList) h hNests.2
            (isLine_append.mpr ⟨hPending, hText⟩) hLine.2 hRest with
          ⟨c, added, hReads, hc, hAlike⟩
        refine ⟨c, added, ?_, hc, hAlike.trans ?_⟩
        · rw [List.flatMap_append, List.append_assoc] at hReads
          rw [writeAll, List.append_assoc]
          exact hReads
        · rw [letters_append, List.append_assoc]
          exact (Alike.refl _).append ((alike_letters s).symm.append (.refl _))
      · have hOther : ∀ s, node ≠ .text s := fun s hs => hNode ⟨s, hs⟩
        rcases h.reads_text hPending.1 hPending.2
            (head?_write hOther (writeAll false nodes ++ rest)) with
          ⟨c, hReads, hc⟩
        rcases reads_node node hOther hc hNests.1 hLine.1
            (writeAll false nodes ++ rest) with
          ⟨d, here, hReadsHere, hd, hHere⟩
        rcases reads_all nodes [] hd hNests.2 ⟨by simp, by simp⟩ hLine.2
            hRest with
          ⟨e, more, hReadsMore, he, hMore⟩
        refine ⟨e, letters pending ++ (here ++ more), ?_, ?_, ?_⟩
        · rw [writeAll, List.append_assoc]
          exact hReads.trans (hReadsHere.trans hReadsMore)
        · simpa only [List.append_assoc] using he
        · exact (Alike.refl _).append (hHere.append hMore)

end

end Stands

end Markup

end Gleaner
