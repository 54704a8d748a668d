import Gleaner.Proofs.List.FirstOccurrence
import Gleaner.Proofs.Product.MediaName
import Gleaner.Proofs.Text.Pieces

/-
  The files of the media in a record: every address that is not
  empty has one, in the order in which the addresses first occur
  in the parts of the record, under a name of its own.

  Main declarations:
    * `suffix_eq_iff`
    * `EndsLike`
    * `endsLike_mediaName`
    * `Record.mem_mediaUrls_iff`
    * `Record.mediaFiles_once`
-/

namespace Gleaner

------------------------------------------------------------
-- Endings
------------------------------------------------------------

/- What follows the last dot of a text is what it ends in. -/
theorem suffix_eq_iff
    {cs ext : List Char}
    (hDotless : '.' ∉ ext) :
    suffix cs = '.' :: ext ↔ '.' :: ext <:+ cs := by
  have hInside : ∀ c ∈ ext.reverse, (c != '.') = true := by
    intro c hc
    rw [bne_iff_ne]
    rintro rfl
    exact hDotless (List.mem_reverse.mp hc)
  constructor
  · intro hSuffix
    have hParts :=
      List.takeWhile_append_dropWhile (p := (· != '.')) (l := cs.reverse)
    rw [suffix] at hSuffix
    split at hSuffix
    · cases hSuffix
    · rename_i c front hDrop
      have hStop := List.head?_dropWhile_not (· != '.') cs.reverse
      rw [hDrop] at hStop hParts
      rw [List.cons.injEq] at hSuffix
      refine ⟨front.reverse, ?_⟩
      rw [← List.reverse_reverse cs, ← hParts, ← hSuffix.2,
        bne_eq_false_iff_eq.mp hStop]
      simp
  · rintro ⟨front, rfl⟩
    have hReverse :
        (front ++ '.' :: ext).reverse =
          ext.reverse ++ '.' :: front.reverse := by
      simp
    have hStop :
        ∀ c ∈ ('.' :: front.reverse).head?, (c != '.') = false := by
      rintro c ⟨⟩
      rfl
    rw [suffix, hReverse, Text.takeWhile_append_of_stop hInside hStop,
      Text.dropWhile_append_of_stop hInside hStop, List.reverse_reverse]

/- The endings that the names of files take over from addresses. -/
def keptEndings : List String :=
  [".gif", ".png", ".mp4"]

/-
  The name ends in one of the endings that are taken over exactly
  if the address does, and in `.jpg` if the address does not.
-/
structure EndsLike (name url : String) : Prop where
  kept : ∀ ending ∈ keptEndings,
    ending.toList <:+ name.toList ↔ ending.toList <:+ url.toList
  other : (∀ ending ∈ keptEndings, ¬ ending.toList <:+ url.toList) →
    ".jpg".toList <:+ name.toList

/- A name ends in the one ending that stands behind its digest. -/
theorem suffix_hex_append_iff
    {ending other : String}
    (hEnding : ending ∈ mediaEndings)
    (hOther : other ∈ mediaEndings)
    (url : String) :
    other.toList <:+ (Md5.hex url ++ ending).toList ↔ other = ending := by
  have hLengths : ∀ e ∈ mediaEndings, e.toList.length = 4 := by
    decide
  have hHere : ending.toList <:+ (Md5.hex url ++ ending).toList := by
    rw [String.toList_append]
    exact List.suffix_append _ _
  constructor
  · intro hThere
    have hSame : other.toList.length = ending.toList.length :=
      (hLengths other hOther).trans (hLengths ending hEnding).symm
    have hBehind :=
      List.suffix_of_suffix_length_le hThere hHere (Nat.le_of_eq hSame)
    exact String.toList_injective (hBehind.eq_of_length hSame)
  · rintro rfl
    exact hHere

/- An address ends in an ending if that is what follows its last dot. -/
theorem eq_suffix_iff
    {ending : String}
    (hEnding : ending ∈ keptEndings)
    (url : String) :
    ending = String.ofList (suffix url.toList) ↔
      ending.toList <:+ url.toList := by
  have hDots : ∀ e ∈ keptEndings,
      e.toList = '.' :: e.toList.drop 1 ∧ '.' ∉ e.toList.drop 1 := by
    decide
  rcases hDots ending hEnding with ⟨hText, hDotless⟩
  rw [← String.toList_inj, String.toList_ofList, hText,
    ← suffix_eq_iff hDotless, eq_comm]

/- The name of a file ends like the address. -/
theorem endsLike_mediaName (url : String) :
    EndsLike (mediaName url) url := by
  have hKnown : ∀ e ∈ keptEndings, e ∈ mediaEndings := by
    decide
  have hOther : ".jpg" ∉ keptEndings := by
    decide
  by_cases hKept : String.ofList (suffix url.toList) ∈ keptEndings
  · have hName :
        mediaName url =
          Md5.hex url ++ String.ofList (suffix url.toList) := by
      rw [mediaName]
      exact congrArg _ (if_pos (List.contains_iff_mem.mpr hKept))
    rw [hName]
    constructor
    · intro ending hEnding
      rw [suffix_hex_append_iff (hKnown _ hKept) (hKnown _ hEnding)]
      exact eq_suffix_iff hEnding url
    · intro hNone
      exact absurd ((eq_suffix_iff hKept url).mp rfl) (hNone _ hKept)
  · have hName : mediaName url = Md5.hex url ++ ".jpg" := by
      rw [mediaName]
      exact congrArg _ (if_neg (mt List.contains_iff_mem.mp hKept))
    rw [hName]
    constructor
    · intro ending hEnding
      rw [suffix_hex_append_iff (by decide) (hKnown _ hEnding),
        ← eq_suffix_iff hEnding url]
      constructor
      · rintro rfl
        exact absurd hEnding hOther
      · rintro rfl
        exact absurd hEnding hKept
    · intro _
      exact (suffix_hex_append_iff (by decide) (by decide) url).mpr rfl

------------------------------------------------------------
-- Files of a Record
------------------------------------------------------------

namespace Record

variable {r : Record}

/- The addresses of media stand in one of four parts of a record. -/
theorem mem_mediaUrls_iff {url : String} :
    url ∈ r.mediaUrls ↔
      url ∈ r.cover ∨ .media url ∈ r.description ∨
        (∃ t ∈ r.specification, t.media = url) ∨
        ∃ o ∈ r.goods, o.media = url := by
  have hPassage : ∀ p : Passage, p.media? = some url ↔ p = .media url := by
    intro p
    cases p with
    | text s => simp [Passage.media?]
    | media other => simp [Passage.media?]
  simp [mediaUrls, hPassage]

/- The addresses of the files are the addresses that are kept once. -/
theorem map_url_mediaFiles (r : Record) :
    r.mediaFiles.map (·.url) =
      (r.mediaUrls.filter (!·.isEmpty)).eraseDups := by
  rw [mediaFiles, List.map_map]
  exact List.map_id' _

/- Every address but the empty one has a file. -/
theorem mem_map_url_mediaFiles_iff {url : String} :
    url ∈ r.mediaFiles.map (·.url) ↔ url ∈ r.mediaUrls ∧ url ≠ "" := by
  rw [map_url_mediaFiles, List.mem_eraseDups, List.mem_filter]
  simp

/- The files come in the order in which their addresses occur first. -/
theorem pairwise_idxOf_mediaFiles (r : Record) :
    (r.mediaFiles.map (·.url)).Pairwise fun a b =>
      r.mediaUrls.idxOf a < r.mediaUrls.idxOf b := by
  have hFilled : ∀ url ∈ r.mediaFiles.map (·.url),
      (!url.isEmpty) = true := by
    intro url hUrl
    simpa using (mem_map_url_mediaFiles_iff.mp hUrl).2
  rw [map_url_mediaFiles] at hFilled ⊢
  apply (pairwise_idxOf_eraseDups _).imp_of_mem
  intro a b ha hb hLess
  exact idxOf_lt_of_filter (hFilled a ha) (hFilled b hb) hLess

/- No address has two files. -/
theorem nodup_map_url_mediaFiles (r : Record) :
    (r.mediaFiles.map (·.url)).Nodup := by
  rw [map_url_mediaFiles]
  exact nodup_eraseDups _

/- Addresses that digests tell apart have files of different names. -/
theorem nodup_map_name_mediaFiles
    (hDigests : Set.InjOn Md5.hex {url | url ∈ r.mediaFiles.map (·.url)}) :
    (r.mediaFiles.map (·.name)).Nodup := by
  have hNames :
      r.mediaFiles.map (·.name) =
        (r.mediaFiles.map (·.url)).map mediaName := by
    simp [mediaFiles, MediaFile.ofUrl]
  rw [hNames]
  exact (nodup_map_url_mediaFiles r).map_on fun a ha b hb hSame =>
    mediaName_injOn hDigests ha hb hSame

/-
  The files of the media in a record.  Every address that is not
  empty and stands in a part of the record has one, and nothing
  else has; no address has two.  They come in the order in which
  the addresses occur first, the parts being taken one after the
  other.  A name ends like its address, and where digests tell the
  addresses apart, no two files have the same name.
-/
theorem mediaFiles_once (r : Record) :
    let all :=
      r.cover ++ r.description.filterMap Passage.media? ++
        r.specification.map (·.media) ++ r.goods.map (·.media)
    let urls := r.mediaFiles.map (·.url)
    (∀ url, url ∈ urls ↔
      url ≠ "" ∧
        (url ∈ r.cover ∨ .media url ∈ r.description ∨
          (∃ t ∈ r.specification, t.media = url) ∨
          ∃ o ∈ r.goods, o.media = url)) ∧
      urls.Nodup ∧
      (urls.Pairwise fun a b => all.idxOf a < all.idxOf b) ∧
      (∀ f ∈ r.mediaFiles, EndsLike f.name f.url) ∧
      (Set.InjOn Md5.hex {url | url ∈ urls} →
        (r.mediaFiles.map (·.name)).Nodup) := by
  intro all urls
  refine ⟨?_, nodup_map_url_mediaFiles r, pairwise_idxOf_mediaFiles r,
    ?_, nodup_map_name_mediaFiles⟩
  · intro url
    rw [mem_map_url_mediaFiles_iff, mem_mediaUrls_iff, and_comm]
  · intro f hf
    rw [name_of_mem_mediaFiles hf]
    exact endsLike_mediaName f.url

/- A record whose parts share addresses. -/
def mediaSample : Record :=
  { pageUrl := "http://[::1]/p"
    template := "common-html"
    cover := ["http://[::1]/a.gif", ""]
    title := "Pump"
    price := []
    currency := ""
    description :=
      [.text "Pumps", .media "http://[::1]/b.webp",
        .media "http://[::1]/a.gif"]
    specification := [⟨"", "Size", "1", "", "http://[::1]/c.mp4"⟩]
    goods := [⟨"", "9", "Small", "http://[::1]/b.webp"⟩]
    extractedAt := ⟨⟨2016, 12, 31⟩, 23, 59, 60, 0⟩ }

/- Shared addresses have one file each, and the names differ. -/
theorem mediaFiles_once_sample :
    (mediaSample.mediaFiles.map (·.url)).Nodup ∧
      (mediaSample.mediaFiles.map (·.name)).Nodup := by
  have hUrls :
      mediaSample.mediaFiles.map (·.url) =
        ["http://[::1]/a.gif", "http://[::1]/b.webp",
          "http://[::1]/c.mp4"] := by
    decide +kernel
  have hDigests :
      Set.InjOn Md5.hex
        {url | url ∈ mediaSample.mediaFiles.map (·.url)} := by
    have hAll :
        ∀ a ∈ mediaSample.mediaFiles.map (·.url),
          ∀ b ∈ mediaSample.mediaFiles.map (·.url),
            Md5.hex a = Md5.hex b → a = b := by
      rw [hUrls]
      decide +kernel
    intro a ha b hb hSame
    exact hAll a ha b hb hSame
  rcases mediaFiles_once mediaSample with
    ⟨_, hOnce, _, _, hNames⟩
  exact ⟨hOnce, hNames hDigests⟩

end Record

end Gleaner
