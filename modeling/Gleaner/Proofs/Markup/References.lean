import Gleaner.Markup.Media

/-
  The media below an element by the nodes below it alone, whatever
  surrounds the element; and nodes that show the same text and the
  same media.

  Main declarations:
    * `Markup.Node.sources`
    * `Markup.Node.media`
    * `Markup.inlineMedia_eq`
    * `Markup.Node.Alike`
    * `Markup.Node.letters`
-/

namespace Gleaner

namespace Markup

namespace Node

------------------------------------------------------------
-- Media of Nodes
------------------------------------------------------------

mutual

/- The references of the sources among a node and what is below it. -/
def sources : Node → List String
  | .text _ => []
  | .comment _ => []
  | .element t children =>
      (if t.name == "source" then (t.reference? "src").toList else []) ++
        sourcesAll children

/- The references of the sources among some nodes and below them. -/
def sourcesAll : List Node → List String
  | [] => []
  | node :: rest => sources node ++ sourcesAll rest

end

/- The media that an element is, with the sources below it. -/
def ownMedia (t : Tag) (children : List Node) : List String :=
  if t.name == "img" then
    ((t.reference? "data-original").or (t.reference? "src")).toList
  else if t.name == "video" then
    (t.reference? "src").toList ++ (t.reference? "poster").toList ++
      sourcesAll children
  else []

mutual

/- The media that a node is and that are below it. -/
def media : Node → List String
  | .text _ => []
  | .comment _ => []
  | .element t children => ownMedia t children ++ mediaAll children

/- The media of some nodes. -/
def mediaAll : List Node → List String
  | [] => []
  | node :: rest => media node ++ mediaAll rest

end

theorem sourcesAll_append (a b : List Node) :
    sourcesAll (a ++ b) = sourcesAll a ++ sourcesAll b := by
  induction a with
  | nil => rfl
  | cons node a ih => simp [sourcesAll, ih]

theorem mediaAll_append (a b : List Node) :
    mediaAll (a ++ b) = mediaAll a ++ mediaAll b := by
  induction a with
  | nil => rfl
  | cons node a ih => simp [mediaAll, ih]

end Node

open Node

------------------------------------------------------------
-- Elements by Their Nodes
------------------------------------------------------------

/- The sources among some siblings and below them. -/
theorem sources_among
    (whole : Bool)
    (frames : List Frame)
    (tag : Tag)
    (before nodes : List Node) :
    ((Element.among whole frames tag before nodes).filter
        (·.tag.name == "source")).filterMap (·.tag.reference? "src") =
      sourcesAll nodes := by
  fun_induction Element.among whole frames tag before nodes with
  | case1 => rfl
  | case2 frames tag before t children after inner ihBelow ihAfter =>
      rw [sourcesAll, sources, List.filter_cons, List.filter_append,
        ← ihBelow, ← ihAfter]
      split
      · cases hRef : t.reference? "src" with
        | none => simp [hRef]
        | some r => simp [hRef]
      · simp
  | case3 frames tag before s after ih => rw [ih]; rfl
  | case4 frames tag before s after ih => rw [ih]; rfl

theorem sources_below (e : Element) :
    (e.below.filter (·.tag.name == "source")).filterMap
        (·.tag.reference? "src") =
      sourcesAll e.children :=
  sources_among e.whole e.frames e.tag [] e.children

/- The media of an element are a matter of its tag and its children. -/
theorem embedded_eq (e : Element) :
    embedded e = ownMedia e.tag e.children := by
  unfold embedded ownMedia
  rw [sources_below]

/- The media among some siblings and below them. -/
theorem media_among
    (whole : Bool)
    (frames : List Frame)
    (tag : Tag)
    (before nodes : List Node) :
    (Element.among whole frames tag before nodes).flatMap embedded =
      mediaAll nodes := by
  fun_induction Element.among whole frames tag before nodes with
  | case1 => rfl
  | case2 frames tag before t children after inner ihBelow ihAfter =>
      rw [mediaAll, media, List.flatMap_cons, List.flatMap_append,
        ihBelow, ihAfter, embedded_eq, List.append_assoc]
  | case3 frames tag before s after ih => rw [ih]; rfl
  | case4 frames tag before s after ih => rw [ih]; rfl

/- The media below an element are those of its children. -/
theorem inlineMedia_eq (e : Element) :
    inlineMedia e = mediaAll e.children :=
  media_among e.whole e.frames e.tag [] e.children

------------------------------------------------------------
-- Nodes that Show the Same
------------------------------------------------------------

namespace Node

theorem textContentAll_append (a b : List Node) :
    textContentAll (a ++ b) = textContentAll a ++ textContentAll b := by
  induction a with
  | nil => rfl
  | cons node a ih => simp [textContentAll, ih]

/- Some nodes show the same text and the same media as others. -/
structure Alike (a b : List Node) : Prop where
  text : textContentAll a = textContentAll b
  media : mediaAll a = mediaAll b
  sources : sourcesAll a = sourcesAll b

namespace Alike

variable {a b c d : List Node}

theorem refl (a : List Node) : Alike a a :=
  ⟨rfl, rfl, rfl⟩

theorem symm (h : Alike a b) : Alike b a :=
  ⟨h.text.symm, h.media.symm, h.sources.symm⟩

theorem trans (h : Alike a b) (hNext : Alike b c) : Alike a c :=
  ⟨h.text.trans hNext.text, h.media.trans hNext.media,
    h.sources.trans hNext.sources⟩

theorem append (h : Alike a b) (hMore : Alike c d) :
    Alike (a ++ c) (b ++ d) := by
  constructor
  · rw [textContentAll_append, textContentAll_append, h.text, hMore.text]
  · rw [mediaAll_append, mediaAll_append, h.media, hMore.media]
  · rw [sourcesAll_append, sourcesAll_append, h.sources, hMore.sources]

/- Elements show the same if the nodes in them do. -/
theorem element (h : Alike a b) (t : Tag) :
    Alike [.element t a] [.element t b] := by
  constructor
  · simp [textContentAll, textContent, h.text]
  · simp [mediaAll, Node.media, ownMedia, h.media, h.sources]
  · simp [sourcesAll, Node.sources, h.sources]

/- A comment shows nothing. -/
theorem comment (s : String) : Alike [.comment s] [] :=
  ⟨rfl, rfl, rfl⟩

end Alike

/- A text as one node for each character. -/
def letters (cs : List Char) : List Node :=
  cs.map fun c => .text (String.singleton c)

theorem letters_append (cs ds : List Char) :
    letters (cs ++ ds) = letters cs ++ letters ds :=
  List.map_append

/- A text shows its characters. -/
theorem alike_letters (s : String) :
    Alike [.text s] (letters s.toList) := by
  have hText : ∀ cs, textContentAll (letters cs) = cs := by
    intro cs
    induction cs with
    | nil => rfl
    | cons c cs ih =>
        rw [letters, List.map_cons, textContentAll, ← letters, ih]
        simp [textContent]
  have hMedia : ∀ cs, mediaAll (letters cs) = [] := by
    intro cs
    induction cs with
    | nil => rfl
    | cons c cs ih =>
        rw [letters, List.map_cons, mediaAll, ← letters, ih]
        rfl
  have hSources : ∀ cs, sourcesAll (letters cs) = [] := by
    intro cs
    induction cs with
    | nil => rfl
    | cons c cs ih =>
        rw [letters, List.map_cons, sourcesAll, ← letters, ih]
        rfl
  refine ⟨?_, (hMedia _).symm, (hSources _).symm⟩
  rw [hText, textContentAll, textContentAll, textContent, List.append_nil]

end Node

end Markup

end Gleaner
