import Gleaner.Proofs.Markup.Address
import Gleaner.Proofs.Markup.References
import Mathlib.Data.List.Lex

/-
  The references of images and videos below an element, each with
  the element and the attribute that carry it.  They are listed
  in document order and once each, except for the sources of a
  video: these are listed with the video, in front of all other
  media inside it, and once more for every video in between.

  Main declarations:
    * `Markup.Mention`
    * `Markup.Mention.Before`
    * `Markup.Element.mentions`
    * `Markup.Element.IsMention`
    * `Markup.Element.Disorders`
    * `Markup.Element.pairwise_mentions_iff`
    * `Markup.inlineMedia_ordered_iff`
-/

namespace Gleaner

namespace Markup

------------------------------------------------------------
-- Mentions
------------------------------------------------------------

/- A reference with the element and the attribute that carry it. -/
structure Mention where
  carrier : Element
  key : String
  reference : String

namespace Mention

/-
  The document order of mentions.  A video carries its own source
  in front of its poster.
-/
def Before (a b : Mention) : Prop :=
  a.carrier.path < b.carrier.path ∨
    (a.carrier.path = b.carrier.path ∧
      a.key = "src" ∧ b.key = "poster")

/- No attribute is mentioned in front of itself. -/
theorem Before.path_ne_or_key_ne
    {a b : Mention}
    (hBefore : a.Before b) :
    a.carrier.path ≠ b.carrier.path ∨ a.key ≠ b.key := by
  rcases hBefore with hLess | ⟨_, hSource, hPoster⟩
  · left
    intro hSame
    rw [hSame] at hLess
    exact List.lt_irrefl _ hLess
  · right
    rw [hSource, hPoster]
    decide

end Mention

namespace Element

/- The mention in an attribute, unless that is blank. -/
def mention? (x : Element) (key : String) : Option Mention :=
  (x.tag.reference? key).map fun r => ⟨x, key, r⟩

/- What an image or a video mentions itself. -/
def shown (x : Element) : List Mention :=
  if x.tag.name == "img" then
    ((x.mention? "data-original").or (x.mention? "src")).toList
  else if x.tag.name == "video" then
    (x.mention? "src").toList ++ (x.mention? "poster").toList
  else []

/- What a source mentions. -/
def supplied (x : Element) : List Mention :=
  if x.tag.name == "source" then (x.mention? "src").toList else []

/- What the sources inside a video mention. -/
def suppliedInside (x : Element) : List Mention :=
  if x.tag.name == "video" then x.below.flatMap supplied else []

/- What images and videos below an element mention, as it is listed. -/
def mentions (e : Element) : List Mention :=
  e.below.flatMap fun x => x.shown ++ x.suppliedInside

/-
  The mentions below an element: those of its images and videos,
  and those of the sources inside its videos.
-/
inductive IsMention (e : Element) (m : Mention) : Prop
  | shown
      {x : Element}
      (hBelow : x ∈ e.below)
      (hShown : m ∈ x.shown)
  | supplied
      {video source : Element}
      (hVideo : video ∈ e.below)
      (hName : video.tag.name = "video")
      (hInside : source ∈ video.below)
      (hSupplied : m ∈ source.supplied)

/-
  A source inside a video is mentioned behind other media of the
  video, or inside another video of the video.
-/
def Disorders (e : Element) : Prop :=
  ∃ video ∈ e.below, video.tag.name = "video" ∧
    ∃ source ∈ video.below, source.supplied ≠ [] ∧
      ((∃ x ∈ video.below, x.shown ≠ [] ∧ x.path < source.path) ∨
        ∃ inner ∈ video.below, inner.tag.name = "video" ∧
          source ∈ inner.below)

variable {e x y : Element}
variable {m : Mention}

------------------------------------------------------------
-- Single Elements
------------------------------------------------------------

/- A mention in an attribute is carried by the element. -/
theorem carrier_of_mem_mention?
    {key : String}
    (hm : m ∈ x.mention? key) :
    m.carrier = x ∧ m.key = key := by
  rcases Option.map_eq_some_iff.mp hm with ⟨r, _, rfl⟩
  exact ⟨rfl, rfl⟩

/- An image or a video carries what it mentions itself. -/
theorem carrier_of_mem_shown (hm : m ∈ x.shown) :
    m.carrier = x ∧ x.tag.name ≠ "source" := by
  unfold shown at hm
  split at hm
  · rename_i hImage
    refine ⟨?_, by rw [beq_iff_eq.mp hImage]; decide⟩
    rw [Option.mem_toList, Option.or_eq_some_iff] at hm
    rcases hm with hLazy | ⟨_, hPlain⟩
    · exact (carrier_of_mem_mention? hLazy).1
    · exact (carrier_of_mem_mention? hPlain).1
  · split at hm
    · rename_i hVideo
      refine ⟨?_, by rw [beq_iff_eq.mp hVideo]; decide⟩
      rcases List.mem_append.mp hm with hOwn | hPoster
      · exact (carrier_of_mem_mention? (Option.mem_toList.mp hOwn)).1
      · exact (carrier_of_mem_mention? (Option.mem_toList.mp hPoster)).1
    · cases hm

/- A source carries what it mentions. -/
theorem carrier_of_mem_supplied (hm : m ∈ x.supplied) :
    m.carrier = x ∧ x.tag.name = "source" := by
  unfold supplied at hm
  split at hm
  · rename_i hSource
    exact ⟨(carrier_of_mem_mention? (Option.mem_toList.mp hm)).1,
      beq_iff_eq.mp hSource⟩
  · cases hm

/- The mentions of the sources inside an element, if it is a video. -/
theorem mem_suppliedInside_iff :
    m ∈ x.suppliedInside ↔
      x.tag.name = "video" ∧ ∃ s ∈ x.below, m ∈ s.supplied := by
  unfold suppliedInside
  split
  · rename_i hVideo
    rw [List.mem_flatMap, and_iff_right (beq_iff_eq.mp hVideo)]
  · rename_i hOther
    rw [beq_iff_eq] at hOther
    simp [hOther]

/- An attribute is mentioned once at most. -/
theorem pairwise_toList
    {α : Type}
    (R : α → α → Prop)
    (o : Option α) :
    o.toList.Pairwise R := by
  cases o with
  | none => exact .nil
  | some a => exact List.pairwise_singleton R a

/- An image or a video mentions its attributes in order. -/
theorem pairwise_shown (x : Element) :
    x.shown.Pairwise Mention.Before := by
  unfold shown
  split
  · exact pairwise_toList _ _
  · split
    · rw [List.pairwise_append]
      refine ⟨pairwise_toList _ _, pairwise_toList _ _, ?_⟩
      intro a ha b hb
      have hOwn := carrier_of_mem_mention? (Option.mem_toList.mp ha)
      have hPoster := carrier_of_mem_mention? (Option.mem_toList.mp hb)
      right
      rw [hOwn.1, hPoster.1]
      exact ⟨rfl, hOwn.2, hPoster.2⟩
    · exact .nil

/- A source mentions one attribute. -/
theorem pairwise_supplied (x : Element) :
    x.supplied.Pairwise Mention.Before := by
  unfold supplied
  split
  · exact pairwise_toList _ _
  · exact .nil

------------------------------------------------------------
-- Elements with Those Inside
------------------------------------------------------------

/- The sources inside a video are mentioned in order. -/
theorem pairwise_suppliedInside (x : Element) :
    x.suppliedInside.Pairwise Mention.Before := by
  unfold suppliedInside
  split
  · rw [List.pairwise_flatMap]
    refine ⟨fun s _ => pairwise_supplied s, ?_⟩
    apply (pairwise_below x).imp
    intro s t hLess a ha b hb
    left
    rw [(carrier_of_mem_supplied ha).1, (carrier_of_mem_supplied hb).1]
    exact hLess
  · exact .nil

/- An element is mentioned in front of the sources inside it. -/
theorem pairwise_block (x : Element) :
    (x.shown ++ x.suppliedInside).Pairwise Mention.Before := by
  rw [List.pairwise_append]
  refine ⟨pairwise_shown x, pairwise_suppliedInside x, ?_⟩
  intro a ha b hb
  rcases (mem_suppliedInside_iff.mp hb).2 with ⟨s, hInside, hSource⟩
  left
  rw [(carrier_of_mem_shown ha).1, (carrier_of_mem_supplied hSource).1]
  exact lt_of_mem_below hInside

/- What is listed for an element is carried by it or inside it. -/
theorem carrier_mem_cons_below
    (hm : m ∈ x.shown ++ x.suppliedInside) :
    m.carrier ∈ x :: x.below := by
  rcases List.mem_append.mp hm with hShown | hSupplied
  · rw [(carrier_of_mem_shown hShown).1]
    exact List.mem_cons_self
  · rcases (mem_suppliedInside_iff.mp hSupplied).2 with
      ⟨s, hInside, hSource⟩
    rw [(carrier_of_mem_supplied hSource).1]
    exact List.mem_cons_of_mem _ hInside

------------------------------------------------------------
-- Places below One Element
------------------------------------------------------------

/- An element below is known by its path. -/
theorem eq_of_mem_below_of_path_eq
    (hx : x ∈ e.below)
    (hy : y ∈ e.below)
    (hPath : x.path = y.path) :
    x = y := by
  rcases mem_below_iff.mp hx with ⟨a, _, hFirst⟩
  rcases mem_below_iff.mp hy with ⟨b, _, hSecond⟩
  rw [path_at? hFirst, path_at? hSecond, List.append_cancel_left_eq]
    at hPath
  rw [hPath, hSecond] at hFirst
  exact (Option.some.inj hFirst).symm

/- The path of an element or of one inside it goes on from its path. -/
theorem exists_path_of_mem_cons_below
    {z : Element}
    (hz : z ∈ x :: x.below) :
    ∃ address, z.path = x.path ++ address := by
  rcases List.mem_cons.mp hz with rfl | hInside
  · exact ⟨[], (List.append_nil _).symm⟩
  · rcases path_of_mem_below hInside with ⟨address, _, hPath⟩
    exact ⟨address, hPath⟩

/-
  Of two elements below another one the later one is inside the
  earlier one, or comes with all that is inside it behind the
  earlier one and all that is inside that.
-/
theorem below_or_behind
    (hx : x ∈ e.below)
    (hy : y ∈ e.below)
    (hLess : x.path < y.path) :
    y ∈ x.below ∨
      ∀ a ∈ x :: x.below, ∀ b ∈ y :: y.below, a.path < b.path := by
  rcases append_or_append_lt hLess with ⟨c, hSome, hPath⟩ | hBehind
  · left
    rcases mem_below_iff.mp hx with ⟨a, _, hFirst⟩
    rcases mem_below_iff.mp hy with ⟨b, _, hSecond⟩
    have hAddress : b = a ++ c := by
      rw [path_at? hSecond, path_at? hFirst, List.append_assoc,
        List.append_cancel_left_eq] at hPath
      exact hPath
    rw [hAddress, at?_append, hFirst] at hSecond
    exact mem_below_iff.mpr ⟨c, hSome, hSecond⟩
  · right
    intro a ha b hb
    rcases exists_path_of_mem_cons_below ha with ⟨c, hFirst⟩
    rcases exists_path_of_mem_cons_below hb with ⟨d, hSecond⟩
    rw [hFirst, hSecond]
    exact hBehind c d

/- Elements in document order are related in pairs by their paths. -/
theorem pairwise_iff_of_ordered
    {xs : List Element}
    {R : Element → Element → Prop}
    (hOrdered : xs.Pairwise fun a b => a.path < b.path) :
    xs.Pairwise R ↔
      ∀ a ∈ xs, ∀ b ∈ xs, a.path < b.path → R a b := by
  induction xs with
  | nil => simp
  | cons x xs ih =>
      rw [List.pairwise_cons] at hOrdered
      rw [List.pairwise_cons, ih hOrdered.2]
      constructor
      · rintro ⟨hFirst, hRest⟩ a ha b hb hLess
        rcases List.mem_cons.mp ha with rfl | hLater
        · rcases List.mem_cons.mp hb with rfl | hBehind
          · exact absurd hLess (List.lt_irrefl _)
          · exact hFirst b hBehind
        · rcases List.mem_cons.mp hb with rfl | hBehind
          · exact absurd (List.lt_trans hLess (hOrdered.1 a hLater))
              (List.lt_irrefl _)
          · exact hRest a hLater b hBehind hLess
      · intro hAll
        constructor
        · intro b hb
          exact hAll x List.mem_cons_self b (List.mem_cons_of_mem _ hb)
            (hOrdered.1 b hb)
        · intro a ha b hb
          exact hAll a (List.mem_cons_of_mem _ ha) b
            (List.mem_cons_of_mem _ hb)

------------------------------------------------------------
-- Order of the Mentions
------------------------------------------------------------

/- What is listed for an element stands in front of the list of another. -/
def Leads (x y : Element) : Prop :=
  ∀ a ∈ x.shown ++ x.suppliedInside,
    ∀ b ∈ y.shown ++ y.suppliedInside, a.Before b

/- The mentions are in order if those of each element lead the later. -/
theorem pairwise_mentions_iff_leads (e : Element) :
    e.mentions.Pairwise Mention.Before ↔
      ∀ x ∈ e.below, ∀ y ∈ e.below, x.path < y.path → x.Leads y := by
  unfold mentions
  rw [List.pairwise_flatMap, and_iff_right fun x _ => pairwise_block x]
  exact pairwise_iff_of_ordered (pairwise_below e)

/- What an element shows itself is in front of all listed later. -/
theorem before_of_mem_shown
    {a b : Mention}
    (ha : a ∈ x.shown)
    (hb : b ∈ y.shown ++ y.suppliedInside)
    (hLess : x.path < y.path) :
    a.Before b := by
  left
  rw [(carrier_of_mem_shown ha).1]
  rcases List.mem_cons.mp (carrier_mem_cons_below hb) with hHere | hInside
  · rw [hHere]
    exact hLess
  · exact List.lt_trans hLess (lt_of_mem_below hInside)

/- A source is mentioned if it is not empty. -/
theorem exists_mem_supplied
    {s : Element}
    (hSome : s.supplied ≠ []) :
    ∃ a ∈ s.supplied, a.carrier = s := by
  rcases List.exists_mem_of_ne_nil _ hSome with ⟨a, ha⟩
  exact ⟨a, ha, (carrier_of_mem_supplied ha).1⟩

/- The source of a disorder is mentioned too early, or twice. -/
theorem exists_not_leads_of_disorders (hDisorders : e.Disorders) :
    ∃ x ∈ e.below, ∃ y ∈ e.below, x.path < y.path ∧ ¬ x.Leads y := by
  rcases hDisorders with ⟨v, hVideo, hName, s, hInside, hSome, hCase⟩
  rcases exists_mem_supplied hSome with ⟨a, ha, hCarrier⟩
  have hListed : a ∈ v.shown ++ v.suppliedInside :=
    List.mem_append_right _
      (mem_suppliedInside_iff.mpr ⟨hName, s, hInside, ha⟩)
  rcases hCase with ⟨x, hx, hShown, hLess⟩ | ⟨w, hw, hInner, hDeep⟩
  · refine ⟨v, hVideo, x, mem_below_trans hVideo hx, lt_of_mem_below hx, ?_⟩
    intro hLeads
    rcases List.exists_mem_of_ne_nil _ hShown with ⟨b, hb⟩
    have hBefore := hLeads a hListed b (List.mem_append_left _ hb)
    unfold Mention.Before at hBefore
    rw [hCarrier, (carrier_of_mem_shown hb).1] at hBefore
    rcases hBefore with hEarly | ⟨hSame, _⟩
    · exact List.lt_irrefl _ (List.lt_trans hEarly hLess)
    · rw [hSame] at hLess
      exact List.lt_irrefl _ hLess
  · refine ⟨v, hVideo, w, mem_below_trans hVideo hw, lt_of_mem_below hw, ?_⟩
    intro hLeads
    have hAgain : a ∈ w.shown ++ w.suppliedInside :=
      List.mem_append_right _
        (mem_suppliedInside_iff.mpr ⟨hInner, s, hDeep, ha⟩)
    rcases (hLeads a hListed a hAgain).path_ne_or_key_ne with hNe | hNe
    · exact hNe rfl
    · exact hNe rfl

/- Without a disorder, what is listed for an element leads the later. -/
theorem leads_of_not_disorders
    (hOrdered : ¬ e.Disorders)
    (hx : x ∈ e.below)
    (hy : y ∈ e.below)
    (hLess : x.path < y.path) :
    x.Leads y := by
  intro a ha b hb
  rcases below_or_behind hx hy hLess with hInside | hBehind
  · rcases List.mem_append.mp ha with hShown | hSupplied
    · exact before_of_mem_shown hShown hb hLess
    · -- the element is a video, and the other one is inside it
      rcases mem_suppliedInside_iff.mp hSupplied with
        ⟨hVideo, s, hs, hSource⟩
      have hSome : s.supplied ≠ [] := List.ne_nil_of_mem hSource
      rcases List.mem_append.mp hb with hOther | hNested
      · have hName := (carrier_of_mem_supplied hSource).2
        have hKind := (carrier_of_mem_shown hOther).2
        left
        rw [(carrier_of_mem_supplied hSource).1,
          (carrier_of_mem_shown hOther).1]
        rcases lt_trichotomy s.path y.path with hEarly | hSame | hLate
        · exact hEarly
        · rw [eq_of_mem_below_of_path_eq hs hInside hSame] at hName
          exact absurd hName hKind
        · exact absurd ⟨x, hx, hVideo, s, hs, hSome, .inl
            ⟨y, hInside, List.ne_nil_of_mem hOther, hLate⟩⟩ hOrdered
      · rcases mem_suppliedInside_iff.mp hNested with
          ⟨hInner, t, ht, hDeep⟩
        exact absurd ⟨x, hx, hVideo, t, mem_below_trans hInside ht,
          List.ne_nil_of_mem hDeep, .inr ⟨y, hInside, hInner, ht⟩⟩
          hOrdered
  · left
    exact hBehind _ (carrier_mem_cons_below ha) _
      (carrier_mem_cons_below hb)

/-
  The mentions are in document order and once each if and only if
  no source inside a video makes a disorder.
-/
theorem pairwise_mentions_iff (e : Element) :
    e.mentions.Pairwise Mention.Before ↔ ¬ e.Disorders := by
  rw [pairwise_mentions_iff_leads]
  constructor
  · intro hLeads hDisorders
    rcases exists_not_leads_of_disorders hDisorders with
      ⟨x, hx, y, hy, hLess, hNot⟩
    exact hNot (hLeads x hx y hy hLess)
  · intro hOrdered x hx y hy hLess
    exact leads_of_not_disorders hOrdered hx hy hLess

/- All that is to be mentioned is mentioned, and nothing else. -/
theorem mem_mentions_iff :
    m ∈ e.mentions ↔ e.IsMention m := by
  unfold mentions
  rw [List.mem_flatMap]
  constructor
  · rintro ⟨x, hx, hm⟩
    rcases List.mem_append.mp hm with hShown | hSupplied
    · exact .shown hx hShown
    · rcases mem_suppliedInside_iff.mp hSupplied with
        ⟨hVideo, s, hInside, hSource⟩
      exact .supplied hx hVideo hInside hSource
  · intro hMention
    cases hMention with
    | @shown x hBelow hShown =>
        exact ⟨x, hBelow, List.mem_append_left _ hShown⟩
    | @supplied v s hVideo hName hInside hSupplied =>
        exact ⟨v, hVideo, List.mem_append_right _
          (mem_suppliedInside_iff.mpr ⟨hName, s, hInside, hSupplied⟩)⟩

------------------------------------------------------------
-- Images and Videos Alone
------------------------------------------------------------

/- Without the sources, what is listed for an element is its own. -/
theorem filter_block (x : Element) :
    (x.shown ++ x.suppliedInside).filter
        (·.carrier.tag.name != "source") =
      x.shown := by
  have hShown :
      x.shown.filter (·.carrier.tag.name != "source") = x.shown := by
    rw [List.filter_eq_self]
    intro m hm
    rcases carrier_of_mem_shown hm with ⟨hCarrier, hName⟩
    rw [hCarrier]
    exact bne_iff_ne.mpr hName
  have hSupplied :
      x.suppliedInside.filter (·.carrier.tag.name != "source") = [] := by
    rw [List.filter_eq_nil_iff]
    intro m hm
    rcases (mem_suppliedInside_iff.mp hm).2 with ⟨s, _, hSource⟩
    rcases carrier_of_mem_supplied hSource with ⟨hCarrier, hName⟩
    rw [hCarrier, hName]
    decide
  rw [List.filter_append, hShown, hSupplied, List.append_nil]

/- What images and videos mention themselves is always in order. -/
theorem pairwise_filter_mentions (e : Element) :
    (e.mentions.filter (·.carrier.tag.name != "source")).Pairwise
      Mention.Before := by
  unfold mentions
  rw [List.filter_flatMap]
  simp only [filter_block]
  rw [List.pairwise_flatMap]
  refine ⟨fun x _ => pairwise_shown x, ?_⟩
  apply (pairwise_below e).imp
  intro x y hLess a ha b hb
  exact before_of_mem_shown ha (List.mem_append_left _ hb) hLess

------------------------------------------------------------
-- References of the Mentions
------------------------------------------------------------

/- The reference of a mention is the value of the attribute. -/
theorem map_mention? (x : Element) (key : String) :
    (x.mention? key).map (·.reference) = x.tag.reference? key := by
  unfold mention?
  rw [Option.map_map]
  exact Option.map_id'

theorem map_toList_mention? (x : Element) (key : String) :
    (x.mention? key).toList.map (·.reference) =
      (x.tag.reference? key).toList := by
  rw [← map_mention?]
  cases x.mention? key <;> rfl

/- What is listed for an element are the references embedded in it. -/
theorem map_block (x : Element) :
    (x.shown ++ x.suppliedInside).map (·.reference) = embedded x := by
  have hSources :
      (x.below.flatMap supplied).map (·.reference) =
        (x.below.filter (·.tag.name == "source")).filterMap
          (·.tag.reference? "src") := by
    rw [List.map_flatMap]
    induction x.below with
    | nil => rfl
    | cons s rest ih =>
        rw [List.flatMap_cons, ih, List.filter_cons]
        unfold supplied
        split
        · rw [map_toList_mention?, List.filterMap_cons]
          cases s.tag.reference? "src" <;> rfl
        · rfl
  unfold shown suppliedInside embedded
  rw [List.map_append]
  split
  · rename_i hImage
    rw [beq_iff_eq] at hImage
    rw [← Option.toList_map, Option.map_or, map_mention?, map_mention?,
      hImage, if_neg (by decide)]
    exact List.append_nil _
  · split
    · rw [List.map_append, map_toList_mention?, map_toList_mention?,
        hSources]
    · rfl

end Element

/- The media of an element are the references of its mentions. -/
theorem inlineMedia_eq_map_mentions (e : Element) :
    inlineMedia e = e.mentions.map (·.reference) := by
  unfold inlineMedia Element.mentions
  rw [List.map_flatMap]
  congr 1
  funext x
  exact (Element.map_block x).symm

/-
  The media of an element are all references of the images and
  videos below it and of the sources inside these videos.  Those
  of images and videos are in document order and once each.  So
  are all of them if and only if no source inside a video is
  behind other media of the video or inside a second video.
-/
theorem inlineMedia_ordered_iff (e : Element) :
    inlineMedia e = e.mentions.map (·.reference) ∧
      (∀ m, m ∈ e.mentions ↔ e.IsMention m) ∧
      (e.mentions.filter (·.carrier.tag.name != "source")).Pairwise
        Mention.Before ∧
      (e.mentions.Pairwise Mention.Before ↔ ¬ e.Disorders) :=
  ⟨inlineMedia_eq_map_mentions e, fun _ => Element.mem_mentions_iff,
    Element.pairwise_filter_mentions e, Element.pairwise_mentions_iff e⟩

/-
  A source is listed in front of the image that it follows, and
  twice if it is inside a video in a video.
-/
theorem source_is_listed_early_and_twice :
    inlineMedia (parseFragment
        "<video><img src=\"/b.jpg\"><source src=\"/a.mp4\"></video>").element =
      ["/a.mp4", "/b.jpg"] ∧
    inlineMedia (parseFragment
        "<video><video><source src=\"/a.mp4\"></video></video>").element =
      ["/a.mp4", "/a.mp4"] := by
  rw [inlineMedia_eq, inlineMedia_eq]
  decide +kernel

end Markup

end Gleaner
