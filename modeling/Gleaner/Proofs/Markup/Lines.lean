import Gleaner.Proofs.Markup.Fragment
import Gleaner.Proofs.Text.Trimming

/-
  Written nodes cut into lines, where each line is read on its own:
  elements that are open at the end of a line are closed there, and
  end tags without their element are lost, but the line shows the
  text and the media that are written in it.

  Main declarations:
    * `Markup.Piece`
    * `Markup.Node.pieces`
    * `Markup.Fits`
    * `Markup.Shows`
    * `Markup.Reached.reads_piece`
    * `Markup.Reached.reads_pieces`
    * `Markup.shows_parseFragment`
-/

namespace Gleaner

namespace Markup

------------------------------------------------------------
-- Pieces
------------------------------------------------------------

/-
  A part of written nodes: a character of a text, a comment or an
  element as a whole, or the start or the end of an element.
-/
inductive Piece
  | letter (c : Char)
  | whole (node : Node)
  | opening (t : Tag)
  | closing (t : Tag)

namespace Piece

/- How a piece is written. -/
def write : Piece → List Char
  | .letter c => escapeText c
  | .whole node => node.write false
  | .opening t => t.writeStart
  | .closing t => t.writeEnd

/- The text that a piece shows. -/
def text : Piece → List Char
  | .letter c => [c]
  | .whole node => node.textContent
  | _ => []

/- The media that a piece shows. -/
def media : Piece → List String
  | .whole node => node.media
  | _ => []

@[simp]
theorem flatMap_text_letters (cs : List Char) :
    (cs.map letter).flatMap text = cs := by
  simp [List.flatMap_map, text]

@[simp]
theorem flatMap_media_letters (cs : List Char) :
    (cs.map letter).flatMap media = [] := by
  simp [List.flatMap_map, media]

end Piece

namespace Node

mutual

/-
  The pieces of a node.  An element that no element stands in is
  whole, and so is a video, whose sources belong to it.
-/
def pieces : Node → List Piece
  | .text s => s.toList.map .letter
  | .comment s => [.whole (.comment s)]
  | .element t children =>
      if holdsNoElement t || t.name == "video" then [.whole (.element t children)]
      else .opening t :: (piecesAll children ++ [.closing t])

/- The pieces of some nodes. -/
def piecesAll : List Node → List Piece
  | [] => []
  | node :: rest => pieces node ++ piecesAll rest

end

mutual

theorem write_pieces
    (node : Node)
    {above : List Tag}
    (hNests : node.nests above = true) :
    (pieces node).flatMap Piece.write = node.write false := by
  cases node with
  | text s => simp [pieces, write, List.flatMap_map, Piece.write]
  | comment s => simp [pieces, Piece.write]
  | element t children =>
      rw [pieces]
      split
      · rw [List.flatMap_singleton, Piece.write]
      · rename_i hKind
        rw [Bool.or_eq_true, not_or, Bool.not_eq_true] at hKind
        rcases nests_opened hNests hKind.1 with ⟨_, _, _, hBelow⟩
        rw [write_opened hKind.1, List.flatMap_cons, List.flatMap_append,
          writeAll_piecesAll children hBelow, List.flatMap_singleton,
          List.append_assoc]
        rfl

/- The pieces of some nodes are written as the nodes are. -/
theorem writeAll_piecesAll
    (nodes : List Node)
    {above : List Tag}
    (hNests : nestsAll above nodes = true) :
    (piecesAll nodes).flatMap Piece.write = writeAll false nodes := by
  cases nodes with
  | nil => rfl
  | cons node rest =>
      rw [nestsAll, Bool.and_eq_true] at hNests
      rw [piecesAll, List.flatMap_append, write_pieces node hNests.1,
        writeAll_piecesAll rest hNests.2, writeAll]

end

mutual

theorem text_pieces (node : Node) :
    (pieces node).flatMap Piece.text = node.textContent := by
  cases node with
  | text s => simp [pieces, textContent]
  | comment s => simp [pieces, Piece.text]
  | element t children =>
      rw [pieces]
      split
      · rw [List.flatMap_singleton, Piece.text]
      · rw [List.flatMap_cons, List.flatMap_append,
          text_piecesAll children, textContent, List.flatMap_singleton]
        simp [Piece.text]

/- The pieces of some nodes show their text. -/
theorem text_piecesAll (nodes : List Node) :
    (piecesAll nodes).flatMap Piece.text = textContentAll nodes := by
  cases nodes with
  | nil => rfl
  | cons node rest =>
      rw [piecesAll, List.flatMap_append, text_pieces node,
        text_piecesAll rest, textContentAll]

end

/- An element that is neither an image nor a video is no medium. -/
theorem ownMedia_eq_nil
    {t : Tag}
    (hImage : t.name ≠ "img")
    (hVideo : t.name ≠ "video")
    (children : List Node) :
    ownMedia t children = [] := by
  rw [ownMedia, if_neg (by simpa using hImage),
    if_neg (by simpa using hVideo)]

/- An image is not opened. -/
theorem ne_img_of_isOpenable
    {name : String}
    (hOpen : isOpenable name = true) :
    name ≠ "img" := by
  rintro rfl
  revert hOpen
  decide

mutual

theorem media_pieces
    (node : Node)
    {above : List Tag}
    (hNests : node.nests above = true) :
    (pieces node).flatMap Piece.media = node.media := by
  cases node with
  | text s => simp [pieces, media]
  | comment s => simp [pieces, Piece.media]
  | element t children =>
      rw [pieces]
      split
      · rw [List.flatMap_singleton, Piece.media]
      · rename_i hKind
        rw [Bool.or_eq_true, not_or, Bool.not_eq_true, beq_iff_eq] at hKind
        rcases nests_opened hNests hKind.1 with ⟨_, _, hOpen, hBelow⟩
        rw [media, ownMedia_eq_nil (ne_img_of_isOpenable hOpen) hKind.2,
          List.flatMap_cons, List.flatMap_append,
          media_piecesAll children hBelow, List.flatMap_singleton]
        simp [Piece.media]

/- The pieces of some nodes show their media. -/
theorem media_piecesAll
    (nodes : List Node)
    {above : List Tag}
    (hNests : nestsAll above nodes = true) :
    (piecesAll nodes).flatMap Piece.media = mediaAll nodes := by
  cases nodes with
  | nil => rfl
  | cons node rest =>
      rw [nestsAll, Bool.and_eq_true] at hNests
      rw [piecesAll, List.flatMap_append, media_pieces node hNests.1,
        media_piecesAll rest hNests.2, mediaAll]

end

end Node

------------------------------------------------------------
-- Pieces that Fit
------------------------------------------------------------

/-
  Pieces can be read one after another below some open elements:
  no start tag closes an element, and an end tag closes the
  innermost one, if one is open.
-/
def Fits : List Tag → List Piece → Prop
  | _, [] => True
  | above, .letter _ :: ps => Fits above ps
  | above, .whole node :: ps =>
      (∀ s, node ≠ .text s) ∧ node.nests above = true ∧ Fits above ps
  | above, .opening t :: ps =>
      t.isWritten = true ∧ isOpenable t.name = true ∧
        t.name ≠ "video" ∧ nestsIn t.name above = true ∧
        Fits (t :: above) ps
  | [], .closing t :: ps =>
      t.isWritten = true ∧ isOpenable t.name = true ∧ Fits [] ps
  | inner :: above, .closing t :: ps =>
      t.isWritten = true ∧ isOpenable t.name = true ∧ inner = t ∧
        Fits above ps

namespace Fits

variable {few above : List Tag}
variable {ps qs : List Piece}

/- Pieces that fit fit where fewer elements are open. -/
theorem mono
    (h : Fits above ps)
    (hFew : few <+: above) :
    Fits few ps := by
  induction ps generalizing few above with
  | nil => trivial
  | cons p ps ih =>
      have hWithin : Within few above := .of_isPrefix hFew
      cases p with
      | letter c => exact ih h hFew
      | whole node =>
          exact ⟨h.1, node.nests_of_within hWithin h.2.1, ih h.2.2 hFew⟩
      | opening t =>
          rcases h with ⟨hTag, hOpen, hVideo, hNests, hRest⟩
          exact ⟨hTag, hOpen, hVideo, hWithin.nestsIn hNests,
            ih hRest (List.cons_prefix_cons.mpr ⟨rfl, hFew⟩)⟩
      | closing t =>
          cases above with
          | nil =>
              rw [List.prefix_nil] at hFew
              subst hFew
              exact h
          | cons inner above =>
              rcases h with ⟨hTag, hOpen, hSame, hRest⟩
              cases few with
              | nil => exact ⟨hTag, hOpen, ih hRest List.nil_prefix⟩
              | cons innerFew few =>
                  rcases List.cons_prefix_cons.mp hFew with ⟨rfl, hRestFew⟩
                  exact ⟨hTag, hOpen, hSame, ih hRest hRestFew⟩

theorem of_append
    (h : Fits above (ps ++ qs)) :
    Fits above ps := by
  induction ps generalizing above with
  | nil => trivial
  | cons p ps ih =>
      cases p with
      | letter c => exact ih h
      | whole node => exact ⟨h.1, h.2.1, ih h.2.2⟩
      | opening t =>
          exact ⟨h.1, h.2.1, h.2.2.1, h.2.2.2.1, ih h.2.2.2.2⟩
      | closing t =>
          cases above with
          | nil => exact ⟨h.1, h.2.1, ih h.2.2⟩
          | cons inner above => exact ⟨h.1, h.2.1, h.2.2.1, ih h.2.2.2⟩

theorem letters_append
    (cs : List Char) :
    Fits above (cs.map .letter ++ ps) ↔ Fits above ps := by
  induction cs with
  | nil => exact Iff.rfl
  | cons c cs ih => exact ih

/-
  The lines of pieces that fit fit on their own: the first line
  where the pieces stand, and the others where nothing is open.
-/
theorem splitOnP
    (h : Fits above ps)
    (isCut : Piece → Bool)
    (hCut : ∀ p, isCut p = true → ∃ c, p = .letter c) :
    ∃ first lines, ps.splitOnP isCut = first :: lines ∧
      Fits above first ∧ ∀ line ∈ lines, Fits [] line := by
  induction ps generalizing above with
  | nil => exact ⟨[], [], rfl, trivial, by simp⟩
  | cons p ps ih =>
      rw [List.splitOnP_cons_eq_if_modifyHead]
      split
      · rename_i hp
        rcases hCut p hp with ⟨c, rfl⟩
        rcases ih h with ⟨first, lines, hLines, hFirst, hOthers⟩
        refine ⟨[], first :: lines, by rw [hLines], trivial, ?_⟩
        intro line hLine
        rcases List.mem_cons.mp hLine with rfl | hLine
        · exact hFirst.mono List.nil_prefix
        · exact hOthers line hLine
      · have hStep : ∀ {next : List Tag}, Fits next ps →
            (∀ first, Fits next first → Fits above (p :: first)) →
            ∃ first lines, (ps.splitOnP isCut).modifyHead (p :: ·) =
              first :: lines ∧ Fits above first ∧
                ∀ line ∈ lines, Fits [] line := by
          intro next hNext hBack
          rcases ih hNext with ⟨first, lines, hLines, hFirst, hOthers⟩
          exact ⟨p :: first, lines, by rw [hLines]; rfl, hBack first hFirst,
            hOthers⟩
        cases p with
        | letter c => exact hStep h fun _ hFirst => hFirst
        | whole node =>
            exact hStep h.2.2 fun _ hFirst => ⟨h.1, h.2.1, hFirst⟩
        | opening t =>
            exact hStep h.2.2.2.2 fun _ hFirst =>
              ⟨h.1, h.2.1, h.2.2.1, h.2.2.2.1, hFirst⟩
        | closing t =>
            cases above with
            | nil => exact hStep h.2.2 fun _ hFirst => ⟨h.1, h.2.1, hFirst⟩
            | cons inner above =>
                exact hStep h.2.2.2 fun _ hFirst =>
                  ⟨h.1, h.2.1, h.2.2.1, hFirst⟩

end Fits

mutual

theorem fits_pieces
    (node : Node)
    {above : List Tag}
    {more : List Piece}
    (hNests : node.nests above = true)
    (hMore : Fits above more) :
    Fits above (node.pieces ++ more) := by
  cases node with
  | text s => exact (Fits.letters_append s.toList).mpr hMore
  | comment s => exact ⟨by simp, hNests, hMore⟩
  | element t children =>
      rw [Node.pieces]
      split
      · exact ⟨by simp, hNests, hMore⟩
      · rename_i hKind
        rw [Bool.or_eq_true, not_or, Bool.not_eq_true, beq_iff_eq] at hKind
        rcases Node.nests_opened hNests hKind.1 with
          ⟨hTag, hIn, hOpen, hBelow⟩
        rw [List.cons_append, List.append_assoc]
        exact ⟨hTag, hOpen, hKind.2, hIn,
          fits_piecesAll children hBelow ⟨hTag, hOpen, rfl, hMore⟩⟩

/- The pieces of nodes that nest fit. -/
theorem fits_piecesAll
    (nodes : List Node)
    {above : List Tag}
    {more : List Piece}
    (hNests : Node.nestsAll above nodes = true)
    (hMore : Fits above more) :
    Fits above (Node.piecesAll nodes ++ more) := by
  cases nodes with
  | nil => exact hMore
  | cons node rest =>
      rw [Node.nestsAll, Bool.and_eq_true] at hNests
      rw [Node.piecesAll, List.append_assoc]
      exact fits_pieces node hNests.1
        (fits_piecesAll rest hNests.2 hMore)

end

theorem fits_of_nestsAll
    {nodes : List Node}
    {above : List Tag}
    (hNests : Node.nestsAll above nodes = true) :
    Fits above (Node.piecesAll nodes) := by
  have hAll : Fits above (Node.piecesAll nodes ++ []) :=
    fits_piecesAll nodes hNests trivial
  rwa [List.append_nil] at hAll

------------------------------------------------------------
-- Reading Pieces
------------------------------------------------------------

/- Some nodes show a text and some media. -/
structure Shows (nodes : List Node) (text : List Char)
    (media : List String) : Prop where
  text : Node.textContentAll nodes = text
  media : Node.mediaAll nodes = media

namespace Shows

variable {nodes more : List Node}
variable {text text' : List Char}
variable {media media' : List String}

theorem append
    (h : Shows nodes text media)
    (hMore : Shows more text' media') :
    Shows (nodes ++ more) (text ++ text') (media ++ media') := by
  constructor
  · rw [Node.textContentAll_append, h.text, hMore.text]
  · rw [Node.mediaAll_append, h.media, hMore.media]

theorem of_alike
    (h : Shows nodes text media)
    (hAlike : Node.Alike more nodes) :
    Shows more text media :=
  ⟨hAlike.text.trans h.text, hAlike.media.trans h.media⟩

theorem letters (cs : List Char) : Shows (Node.letters cs) cs [] := by
  have hAlike := Node.alike_letters (String.ofList cs)
  rw [String.toList_ofList] at hAlike
  refine of_alike ?_ hAlike.symm
  constructor
  · simp [Node.textContentAll, Node.textContent]
  · simp [Node.mediaAll, Node.media]

/- An element that is no medium shows what is in it. -/
theorem element
    {t : Tag}
    (h : Shows nodes text media)
    (hImage : t.name ≠ "img")
    (hVideo : t.name ≠ "video") :
    Shows [.element t nodes] text media := by
  constructor
  · simp [Node.textContentAll, Node.textContent, h.text]
  · simp [Node.mediaAll, Node.media,
      Node.ownMedia_eq_nil hImage hVideo, h.media]

end Shows

/- The nodes of some levels in the order of the text. -/
def flat : List Level → List Node
  | [] => []
  | level :: levels => flat levels ++ level.nodes

/- No open element is an image or a video. -/
def Medialess (tags : List Tag) : Prop :=
  ∀ t ∈ tags, t.name ≠ "img" ∧ t.name ≠ "video"

/- What is shown does not change when the levels are closed. -/
theorem shows_closed
    {level : Level}
    {levels : List Level}
    {text : List Char}
    {media : List String}
    (hNone : Medialess ((level :: levels).map (·.tag)))
    (h : Shows (flat (level :: levels)) text media) :
    Shows (closed (level :: levels)) text media := by
  rcases level with ⟨tag, nodes⟩
  induction levels generalizing tag nodes with
  | nil => exact h
  | cons outer levels ih =>
      have hHere := hNone tag List.mem_cons_self
      have hInner : Shows nodes (Node.textContentAll nodes)
          (Node.mediaAll nodes) :=
        ⟨rfl, rfl⟩
      have hElement := hInner.element hHere.1 hHere.2
      change Shows (closed
        (⟨outer.tag, outer.nodes ++ [.element tag nodes]⟩ :: levels)) text
          media
      apply ih
      · exact fun t ht => hNone t (List.mem_cons_of_mem _ ht)
      · constructor
        · rw [← h.text]
          simp only [flat, Node.textContentAll_append, hElement.text,
            List.append_assoc]
        · rw [← h.media]
          simp only [flat, Node.mediaAll_append, hElement.media,
            List.append_assoc]

/- The end tag of an element that can be opened may be lost. -/
theorem notMem_lost
    {name : String}
    (hOpen : isOpenable name = true) :
    name ∉ ["template", "body", "html", "form", "br"] := by
  have hNone : ∀ n ∈ ["template", "body", "html", "form", "br"],
      isOpenable n = false := by
    decide
  intro hName
  rw [hNone name hName] at hOpen
  cases hOpen

/-
  The reader is below some open elements, the innermost one first,
  and what it has read shows a text and some media.
-/
def Reached (b : Builder) (above : List Tag) (text : List Char)
    (media : List String) : Prop :=
  ∃ level levels root, Stands b .body (level :: levels) ∧
    (level :: levels).map (·.tag) = above ++ [root] ∧
    root.name = "html" ∧
    Medialess ((level :: levels).map (·.tag)) ∧
    Shows (flat (level :: levels)) text media

namespace Reached

variable {b : Builder}
variable {above : List Tag}
variable {text : List Char}
variable {media : List String}
variable {t : Tag}

/- The reader of a fragment starts where nothing is open. -/
theorem inFragment : Reached Builder.inFragment [] [] [] :=
  ⟨_, _, fragmentRoot, stands_inFragment, rfl, rfl,
    by simp [Medialess, fragmentRoot], ⟨rfl, rfl⟩⟩

/- A text is read in front of a tag, or at the end. -/
theorem reads_letters
    (h : Reached b above text media)
    {cs rest : List Char}
    (hLine : IsLine cs)
    (hRest : ∀ c ∈ rest.head?, c = '<') :
    ∃ c, Reads b (cs.flatMap escapeText ++ rest) c rest ∧
      Reached c above (text ++ cs) media := by
  rcases h with ⟨level, levels, root, hb, hTags, hRoot, hNone, hShows⟩
  rcases hb.reads_text hLine.1 hLine.2 hRest with ⟨c, hReads, hc⟩
  refine ⟨c, hReads, _, _, root, hc, hTags, hRoot, hNone, ?_⟩
  have hMore := hShows.append (.letters cs)
  rwa [List.append_nil, flat, List.append_assoc] at hMore

/- A comment or an element is read as a whole. -/
theorem reads_whole
    (h : Reached b above text media)
    {node : Node}
    (hNode : ∀ s, node ≠ .text s)
    (hNests : node.nests above = true)
    (hLine : IsLine (node.write false))
    (rest : List Char) :
    ∃ c, Reads b (node.write false ++ rest) c rest ∧
      Reached c above (text ++ node.textContent) (media ++ node.media) := by
  rcases h with ⟨level, levels, root, hb, hTags, hRoot, hNone, hShows⟩
  have hHere : node.nests ((level :: levels).map (·.tag)) = true := by
    rw [hTags]
    exact node.nests_of_within (.concat above hRoot) hNests
  rcases hb.reads_node node hNode hHere hLine rest with
    ⟨c, added, hReads, hc, hAlike⟩
  refine ⟨c, hReads, _, _, root, hc, hTags, hRoot, hNone, ?_⟩
  have hNodeShows : Shows [node] node.textContent node.media :=
    ⟨by simp [Node.textContentAll], by simp [Node.mediaAll]⟩
  have hMore := hShows.append (hNodeShows.of_alike hAlike)
  rwa [flat, List.append_assoc] at hMore

/- A start tag is read, and its element is open. -/
theorem reads_opening
    (h : Reached b above text media)
    (hTag : t.isWritten = true)
    (hOpen : isOpenable t.name = true)
    (hVideo : t.name ≠ "video")
    (hNests : nestsIn t.name above = true)
    (rest : List Char) :
    ∃ c, Reads b (t.writeStart ++ rest) c rest ∧
      Reached c (t :: above) text media := by
  rcases h with ⟨level, levels, root, hb, hTags, hRoot, hNone, hShows⟩
  have hHere : nestsIn t.name ((level :: levels).map (·.tag)) = true := by
    rw [hTags]
    exact (Within.concat above hRoot).nestsIn hNests
  rcases hb.reads_open hTag hOpen hHere rest with ⟨c, hReads, hc⟩
  refine ⟨c, hReads, _, _, root, hc, ?_, hRoot, ?_, ?_⟩
  · rw [List.map_cons, hTags]
    rfl
  · intro tag hIn
    rcases List.mem_cons.mp hIn with rfl | hIn
    · exact ⟨Node.ne_img_of_isOpenable hOpen, hVideo⟩
    · exact hNone tag hIn
  · rwa [flat, List.append_nil]

/- The end tag of the innermost element is read. -/
theorem reads_closing
    (h : Reached b (t :: above) text media)
    (hTag : t.isWritten = true)
    (hOpen : isOpenable t.name = true)
    (rest : List Char) :
    ∃ c, Reads b (t.writeEnd ++ rest) c rest ∧
      Reached c above text media := by
  rcases h with ⟨level, levels, root, hb, hTags, hRoot, hNone, hShows⟩
  rw [List.map_cons, List.cons_append, List.cons.injEq] at hTags
  rcases hTags with ⟨rfl, hTags⟩
  cases levels with
  | nil => simp at hTags
  | cons outer levels =>
      rcases hb.reads_close hTag hOpen rest with ⟨c, hReads, hc⟩
      refine ⟨c, hReads, _, _, root, hc, hTags, hRoot,
        fun tag hIn => hNone tag (List.mem_cons_of_mem _ hIn), ?_⟩
      have hHere := hNone level.tag List.mem_cons_self
      have hElement : Shows [.element level.tag level.nodes]
          (Node.textContentAll level.nodes) (Node.mediaAll level.nodes) :=
        Shows.element ⟨rfl, rfl⟩ hHere.1 hHere.2
      constructor
      · rw [← hShows.text]
        simp only [flat, Node.textContentAll_append, hElement.text,
          List.append_assoc]
      · rw [← hShows.media]
        simp only [flat, Node.mediaAll_append, hElement.media,
          List.append_assoc]

/- An end tag without its element is read and lost. -/
theorem reads_lost
    (h : Reached b [] text media)
    (hTag : t.isWritten = true)
    (hOpen : isOpenable t.name = true)
    (rest : List Char) :
    ∃ c, Reads b (t.writeEnd ++ rest) c rest ∧
      Reached c [] text media := by
  rcases h with ⟨level, levels, root, hb, hTags, hRoot, hNone, hShows⟩
  obtain ⟨rfl, rfl⟩ : level.tag = root ∧ levels = [] := by
    simpa using hTags
  rcases hb.reads_lost hTag (notMem_lost hOpen) rest with
    ⟨c, added, hReads, hc, hAlike⟩
  refine ⟨c, hReads, _, _, level.tag, hc, rfl, hRoot, hNone, ?_⟩
  have hNothing : Shows added [] [] := Shows.of_alike ⟨rfl, rfl⟩ hAlike
  have hMore := hShows.append hNothing
  rwa [List.append_nil, List.append_nil, flat, List.append_assoc] at hMore

/- A piece that is no character of a text is read. -/
theorem reads_piece
    (h : Reached b above text media)
    {p : Piece}
    {ps : List Piece}
    (hPiece : ∀ x, p ≠ .letter x)
    (hFits : Fits above (p :: ps))
    (hLine : IsLine p.write)
    (rest : List Char) :
    ∃ c next, Reads b (p.write ++ rest) c rest ∧
      Reached c next (text ++ p.text) (media ++ p.media) ∧
      Fits next ps := by
  cases p with
  | letter x => exact absurd rfl (hPiece x)
  | whole node =>
      rcases hFits with ⟨hNode, hNests, hRest⟩
      rcases h.reads_whole hNode hNests hLine rest with ⟨c, hReads, hc⟩
      exact ⟨c, above, hReads, hc, hRest⟩
  | opening t =>
      rcases hFits with ⟨hTag, hOpen, hVideo, hIn, hRest⟩
      rcases h.reads_opening hTag hOpen hVideo hIn rest with ⟨c, hReads, hc⟩
      refine ⟨c, t :: above, hReads, ?_, hRest⟩
      simpa [Piece.text, Piece.media] using hc
  | closing t =>
      cases above with
      | nil =>
          rcases hFits with ⟨hTag, hOpen, hRest⟩
          rcases h.reads_lost hTag hOpen rest with ⟨c, hReads, hc⟩
          refine ⟨c, [], hReads, ?_, hRest⟩
          simpa [Piece.text, Piece.media] using hc
      | cons inner above =>
          rcases hFits with ⟨hTag, hOpen, rfl, hRest⟩
          rcases h.reads_closing hTag hOpen rest with ⟨c, hReads, hc⟩
          refine ⟨c, above, hReads, ?_, hRest⟩
          simpa [Piece.text, Piece.media] using hc

/- Every piece but a character of a text starts with a bracket. -/
theorem head?_write_piece
    {p : Piece}
    {ps : List Piece}
    (hPiece : ∀ x, p ≠ .letter x)
    (hFits : Fits above (p :: ps))
    (rest : List Char) :
    ∀ c ∈ (p.write ++ rest).head?, c = '<' := by
  cases p with
  | letter x => exact absurd rfl (hPiece x)
  | whole node => exact head?_write hFits.1 rest
  | opening t => simp [Piece.write, Tag.writeStart]
  | closing t => simp [Piece.write, Tag.writeEnd]

/-
  Pieces that fit are read.  The characters in `pending` stand in
  front of them and are not read yet: a text is read up to the
  next tag at once.
-/
theorem reads_pieces
    {ps : List Piece}
    {pending : List Char}
    (h : Reached b above text media)
    (hFits : Fits above ps)
    (hPending : IsLine pending)
    (hLine : IsLine (ps.flatMap Piece.write)) :
    ∃ c last,
      Reads b (pending.flatMap escapeText ++ ps.flatMap Piece.write) c [] ∧
      Reached c last (text ++ pending ++ ps.flatMap Piece.text)
        (media ++ ps.flatMap Piece.media) := by
  induction ps generalizing b above pending text media with
  | nil =>
      have hEnd : ∀ x ∈ ([] : List Char).head?, x = '<' := by simp
      rcases h.reads_letters hPending hEnd with ⟨c, hReads, hc⟩
      refine ⟨c, above, hReads, ?_⟩
      simpa using hc
  | cons p ps ih =>
      rw [List.flatMap_cons, isLine_append] at hLine
      rw [List.flatMap_cons, List.flatMap_cons, List.flatMap_cons]
      by_cases hPiece : ∃ x, p = .letter x
      · rcases hPiece with ⟨x, rfl⟩
        have hLetter : IsLine [x] := by
          constructor
          · exact not_mem_of_flatMap_escapeText (by decide)
              (by simpa [Piece.write] using hLine.1.1)
          · exact not_mem_of_flatMap_escapeText (by decide)
              (by simpa [Piece.write] using hLine.1.2)
        rcases ih h hFits (isLine_append.mpr ⟨hPending, hLetter⟩)
            hLine.2 with ⟨c, last, hReads, hc⟩
        refine ⟨c, last, ?_, ?_⟩
        · simpa [Piece.write] using hReads
        · simpa [Piece.text, Piece.media] using hc
      · have hOther : ∀ x, p ≠ .letter x := fun x hx => hPiece ⟨x, hx⟩
        rcases h.reads_letters hPending
            (head?_write_piece hOther hFits (ps.flatMap Piece.write)) with
          ⟨c, hReads, hc⟩
        rcases hc.reads_piece hOther hFits hLine.1
            (ps.flatMap Piece.write) with
          ⟨d, next, hReadsPiece, hd, hRest⟩
        have hEmpty : IsLine [] := ⟨by simp, by simp⟩
        rcases ih hd hRest hEmpty hLine.2 with ⟨e, last, hReadsRest, he⟩
        refine ⟨e, last, hReads.trans (hReadsPiece.trans hReadsRest), ?_⟩
        simpa using he

end Reached

/- The characters are not changed in front of a reader. -/
def IsSteady (cs : List Char) : Prop :=
  '\x00' ∉ cs ∧ '\r' ∉ cs ∧ '\uFEFF' ∉ cs

theorem IsSteady.of_subset
    {cs ds : List Char}
    (h : IsSteady ds)
    (hSubset : cs ⊆ ds) :
    IsSteady cs :=
  ⟨fun hc => h.1 (hSubset hc), fun hc => h.2.1 (hSubset hc),
    fun hc => h.2.2 (hSubset hc)⟩

/- A line that is read on its own shows what its pieces show. -/
theorem shows_parseFragment
    {ps : List Piece}
    (hFits : Fits [] ps)
    (hSteady : IsSteady (ps.flatMap Piece.write))
    (hLine : '\n' ∉ ps.flatMap Piece.write) :
    Shows
      (parseFragment (String.ofList (ps.flatMap Piece.write))).children
      (ps.flatMap Piece.text) (ps.flatMap Piece.media) := by
  have hEmpty : IsLine [] := ⟨by simp, by simp⟩
  rcases Reached.inFragment.reads_pieces hFits hEmpty ⟨hSteady.1, hLine⟩
    with ⟨c, last, hReads, hc⟩
  rcases hc with ⟨level, levels, root, hStands, _, _, hNone, hShows⟩
  exact (shows_closed hNone hShows).of_alike
    (alike_parseFragment hSteady.2.1 hSteady.2.2 hReads hStands)

end Markup

end Gleaner
