import Gleaner.Extraction.Assemble
import Gleaner.Proofs.Extraction.Candidates
import Gleaner.Proofs.Url.Written

/-
  The addresses of media: none holds a query or a line end, and
  those that are resolved on a page can be requested.

  Main declarations:
    * `Url.IsSound.isPlainChar_of_mem_write`
    * `Url.IsSound.exists_parse_origin`
    * `Page.IsMedium`
    * `Page.IsMedium.plain`
    * `Page.mediaUrl_readable`
    * `Extract.isMedium_of_mem_assemble`
    * `Extract.mediaFiles_plain`
-/

namespace Gleaner

------------------------------------------------------------
-- Plain Texts
------------------------------------------------------------

namespace Url

/- A character that neither starts a query nor ends a line. -/
def isPlainChar (c : Char) : Bool :=
  c != '?' && c != '\r' && c != '\n'

variable {asked : Bool}
variable {scheme : String}
variable {a : Authority}
variable {u : Url}
variable {c : Char}

/- Outside a class with the line ends, `?` alone is not plain. -/
theorem isPlainChar_of_outside
    {among : Char → Bool}
    (hEnds : among '\r' = true ∧ among '\n' = true)
    (hMark : c ≠ '?')
    (hOut : among c = false) :
    isPlainChar c = true := by
  simp only [isPlainChar, Bool.and_eq_true, bne_iff_ne]
  refine ⟨⟨hMark, ?_⟩, ?_⟩
  · rintro rfl
    rw [hEnds.1] at hOut
    cases hOut
  · rintro rfl
    rw [hEnds.2] at hOut
    cases hOut

/- The characters of a scheme are plain. -/
theorem IsScheme.isPlainChar
    (hScheme : IsScheme scheme)
    (hc : c ∈ scheme.toList) :
    isPlainChar c = true := by
  have hChar := hScheme.chars c hc
  refine isPlainChar_of_outside ⟨rfl, rfl⟩ ?_
    (isLow_of_isSchemeChar hChar)
  rintro rfl
  exact absurd hChar (by decide)

/- The characters of an authority are plain. -/
theorem Authority.IsSound.isPlainChar
    (hSound : a.IsSound scheme)
    (hc : c ∈ a.server) :
    isPlainChar c = true := by
  refine isPlainChar_of_outside ⟨rfl, rfl⟩ ?_
    (hSound.isLow_of_mem_server hc)
  rintro rfl
  exact absurd (hSound.endsAuthority_of_mem_server .web hc) (by decide)

/- The text of a URL that asks nothing is plain. -/
theorem IsSound.isPlainChar_of_mem_write
    (hSound : IsSound false u)
    (hc : c ∈ u.write) :
    isPlainChar c = true := by
  have hAll : ∀ c ∈ u.write, Url.isPlainChar c = true := by
    rw [write_eq_ending, List.forall_mem_append, List.forall_mem_append]
    refine ⟨⟨?_, ?_⟩, ?_⟩
    · apply forall_mem_front
      · decide
      · exact fun c => hSound.front.isScheme.isPlainChar
      · exact fun a ha c => (hSound.front.isSound a ha).isPlainChar
    · intro c hc
      have hChar := hSound.front.isPath c hc
      rw [isPathChar, Bool.and_eq_true, Bool.not_eq_true',
        bne_iff_ne] at hChar
      exact isPlainChar_of_outside ⟨rfl, rfl⟩ hChar.2 hChar.1
    · apply forall_mem_ending
      · intro q hq
        rw [hSound.query rfl] at hq
        cases hq
      · intro f hf
        rw [List.forall_mem_cons]
        refine ⟨by decide, fun c hc => ?_⟩
        have hChar := hSound.fragment f hf c hc
        exact isPlainChar_of_outside ⟨rfl, rfl⟩ (hChar.2 rfl)
          hChar.1
  exact hAll c hc

/- A text without a colon is no URL of its own. -/
theorem parse_eq_relative
    {s : String}
    (hColon : ':' ∉ s.toList) :
    parse s = .error .relative := by
  have hTake : takeScheme? (clean s.toList) = none := by
    rw [takeScheme?]
    split
    · rename_i hDrop
      have hMem := (List.dropWhile_suffix isSchemeChar).subset
        (hDrop ▸ List.mem_cons_self)
      exact absurd (mem_of_mem_clean hMem) hColon
    · rfl
  rw [parse, Url.read.eq_def]
  dsimp only
  rw [hTake]

------------------------------------------------------------
-- Origins
------------------------------------------------------------

/- The host and the port of an authority, for anyone. -/
theorem Authority.IsSound.withoutUser
    (hSound : a.IsSound scheme) :
    Authority.IsSound scheme ⟨"", a.host, a.port⟩ :=
  ⟨by simp, hSound.host, hSound.port,
    fun hAlone => ⟨rfl, (hSound.alone hAlone).2⟩⟩

/- The origin of a resource on the web is a scheme and a server. -/
theorem origin_eq_server
    (hKind : u.kind = .web)
    (hServer : u.authority = some a)
    (hHost : a.host.isSome = true) :
    u.origin =
      String.ofList (u.scheme.toList ++ ':' :: '/' :: '/' ::
        Authority.server ⟨"", a.host, a.port⟩) := by
  rcases Option.isSome_iff_exists.mp hHost with ⟨host, hSome⟩
  simp [origin, hKind, hServer, hSome, Authority.server, Authority.seat]

/- The characters of an origin are plain. -/
theorem IsSound.isPlainChar_of_mem_origin
    (hSound : IsSound asked u)
    (hc : c ∈ u.origin.toList) :
    isPlainChar c = true := by
  by_cases hKind : u.kind = .web
  · rcases hSound.front.hasHost hKind with ⟨a, hServer, hHost⟩
    rw [origin_eq_server hKind hServer hHost, String.toList_ofList] at hc
    simp only [List.mem_append, List.mem_cons] at hc
    rcases hc with hScheme | rfl | rfl | rfl | hMem
    · exact hSound.front.isScheme.isPlainChar hScheme
    · decide
    · decide
    · decide
    · exact (hSound.front.isSound a hServer).withoutUser.isPlainChar hMem
  · have hNull : u.origin = "null" := by
      rw [origin]
      split
      · rename_i hWeb _
        exact absurd hWeb hKind
      · rfl
    have hAll : ∀ d ∈ "null".toList, isPlainChar d = true :=
      List.all_eq_true.mp (by decide)
    rw [hNull] at hc
    exact hAll c hc

/- The origin of a page can be read, and so can paths behind it. -/
theorem IsSound.exists_parse_origin
    {rest : List Char}
    (hSound : IsSound asked u)
    (hKind : u.kind = .web)
    (hEnd : EndsServer .web rest) :
    ∃ v, parse (u.origin ++ String.ofList rest) = .ok v := by
  rcases hSound.front.hasHost hKind with ⟨a, hServer, hHost⟩
  have hText :
      u.origin ++ String.ofList rest =
        String.ofList (u.scheme.toList ++ ':' :: '/' :: '/' ::
          (Authority.server ⟨"", a.host, a.port⟩ ++ rest)) := by
    rw [origin_eq_server hKind hServer hHost, ← String.ofList_append]
    simp
  have hStop : EndsServer (.ofScheme u.scheme) rest := by
    rw [← kind, hKind]
    exact hEnd
  rcases exists_parse_server hSound.front.isScheme
      (hSound.front.isSound a hServer).withoutUser (fun _ => hHost) hStop with
    ⟨v, hParse, _⟩
  exact ⟨v, hText ▸ hParse⟩

end Url

------------------------------------------------------------
-- Media of Pages
------------------------------------------------------------

namespace Page

/- The address of a medium that a page refers to. -/
def IsMedium (p : Page) (url : String) : Prop :=
  ∃ raw, p.mediaUrl? raw = some url

variable {address raw url : String}
variable {p : Page}
variable {c : Char}

/- The URL of a page is sound. -/
theorem isSound_of_ofAddress
    (hPage : ofAddress address = .ok p) :
    Url.IsSound true p.url := by
  rw [ofAddress] at hPage
  split at hPage
  · cases hPage
  · rename_i u hParse
    split at hPage
    · cases hPage
    · cases hPage
      exact Url.isSound_of_parse nofun hParse

/- A cleaned reference asks nothing and ends no line. -/
theorem isPlainChar_of_mem_cleanReference
    (hc : c ∈ cleanReference raw) :
    Url.isPlainChar c = true := by
  have hFlat :=
    (List.mem_filter.mp (Text.mem_of_mem_trim
      ((List.takeWhile_prefix _).subset hc))).2
  have hMark := List.mem_takeWhile_imp hc
  rw [Bool.and_eq_true] at hFlat
  rw [Url.isPlainChar, hMark, hFlat.1, hFlat.2]
  rfl

/- What stands in the place of the root asks nothing. -/
theorem isSound_of_fromRoot?
    {reference : List Char}
    (hPage : ofAddress address = .ok p)
    (hReference : '?' ∉ reference)
    (hFound : p.fromRoot? reference = some url) :
    ∃ u, Url.IsSound false u ∧ url = u.text := by
  rw [fromRoot?] at hFound
  split at hFound
  · cases hFound
  · rename_i root hRoot
    split at hFound
    · rename_i u hJoin
      cases hFound
      have hBase : Url.IsSound false root := by
        refine Url.isSound_of_parse (fun _ hMark => ?_) hRoot
        exact absurd
          ((isSound_of_ofAddress hPage).isPlainChar_of_mem_origin hMark)
          (by decide)
      refine ⟨u, Url.isSound_read ?_ (fun _ => ?_) hJoin, rfl⟩
      · rintro b ⟨⟩
        exact hBase
      · rwa [String.toList_ofList]
    · cases hFound

/-
  The ways in which a reference becomes the address of a medium:
  as it stands, behind a scheme, behind the origin of the page,
  or in the place of the root of the site.
-/
theorem mediaUrl?_cases
    (hMedium : p.mediaUrl? raw = some url) :
    cleanReference raw ≠ [] ∧
      ((Text.startsWith "http".toList (cleanReference raw) = true ∧
          url = String.ofList (cleanReference raw)) ∨
        (Text.startsWith "//".toList (cleanReference raw) = true ∧
          url = String.ofList ("http:".toList ++ cleanReference raw)) ∨
        (Text.startsWith "/".toList (cleanReference raw) = true ∧
          url = p.url.origin ++ String.ofList (cleanReference raw)) ∨
        p.fromRoot? (cleanReference raw) = some url) := by
  rw [mediaUrl?] at hMedium
  dsimp only at hMedium
  split at hMedium
  · cases hMedium
  · rename_i hUseful
    rw [Bool.or_eq_true, not_or] at hUseful
    refine ⟨by simpa using hUseful.1, ?_⟩
    split at hMedium
    · rename_i hStart
      cases hMedium
      exact .inl ⟨hStart, rfl⟩
    · split at hMedium
      · rename_i hStart
        cases hMedium
        exact .inr (.inl ⟨hStart, rfl⟩)
      · split at hMedium
        · rename_i hStart
          cases hMedium
          exact .inr (.inr (.inl ⟨hStart, rfl⟩))
        · exact .inr (.inr (.inr hMedium))

/- An address asks nothing and ends no line. -/
theorem IsMedium.plain
    (hPage : ofAddress address = .ok p)
    (hMedium : p.IsMedium url) :
    url ≠ "" ∧ ∀ c ∈ url.toList, Url.isPlainChar c = true := by
  rcases hMedium with ⟨raw, hUrl⟩
  have hReference : ∀ c ∈ cleanReference raw, Url.isPlainChar c = true :=
    fun c => isPlainChar_of_mem_cleanReference
  rcases mediaUrl?_cases hUrl with
    ⟨hSome, ⟨_, rfl⟩ | ⟨_, rfl⟩ | ⟨_, rfl⟩ | hRoot⟩
  · refine ⟨by simpa using hSome, ?_⟩
    rwa [String.toList_ofList]
  · refine ⟨by simp, ?_⟩
    rw [String.toList_ofList, List.forall_mem_append]
    exact ⟨List.all_eq_true.mp (by decide), hReference⟩
  · refine ⟨by simp [hSome], ?_⟩
    rw [String.toList_append, String.toList_ofList,
      List.forall_mem_append]
    exact ⟨fun c =>
      (isSound_of_ofAddress hPage).isPlainChar_of_mem_origin, hReference⟩
  · have hMark : '?' ∉ cleanReference raw := fun hMark =>
      absurd (hReference '?' hMark) (by decide)
    rcases isSound_of_fromRoot? hPage hMark hRoot with ⟨u, hSound, rfl⟩
    rw [Url.text, String.toList_ofList]
    refine ⟨?_, fun c => hSound.isPlainChar_of_mem_write⟩
    rcases hSound.front.isScheme.starts with ⟨c, name, hScheme, _⟩
    simp [Url.write, Url.front, hScheme]

/-
  An address of a medium can be read if the reference starts
  neither with `http` nor with two slashes.  Such references are
  taken as they stand, also if they are names that only start
  like a scheme.
-/
theorem mediaUrl_readable
    (hPage : ofAddress address = .ok p)
    (hScheme : p.url.scheme = "http" ∨ p.url.scheme = "https")
    (hMedium : p.mediaUrl? raw = some url) :
    (Text.startsWith "http".toList (cleanReference raw) = true ∧
        url = String.ofList (cleanReference raw) ∧
        (':' ∉ url.toList → Url.parse url = .error .relative)) ∨
      (Text.startsWith "//".toList (cleanReference raw) = true ∧
        url = String.ofList ("http:".toList ++ cleanReference raw)) ∨
      ∃ u, Url.parse url = .ok u := by
  have hKind : p.url.kind = .web := by
    rw [Url.kind]
    rcases hScheme with hHttp | hHttps
    · rw [hHttp]
      decide
    · rw [hHttps]
      decide
  rcases mediaUrl?_cases hMedium with
    ⟨_, ⟨hStart, hTaken⟩ | hTaken | ⟨hSlash, rfl⟩ | hRoot⟩
  · exact .inl ⟨hStart, hTaken, Url.parse_eq_relative⟩
  · exact .inr (.inl hTaken)
  · refine .inr (.inr ?_)
    apply (isSound_of_ofAddress hPage).exists_parse_origin hKind
    rcases Option.isSome_iff_exists.mp hSlash with ⟨rest, hRest⟩
    rw [Text.eq_append_of_dropPrefix? hRest]
    rintro c ⟨⟩
    decide
  · have hMark : '?' ∉ cleanReference raw := fun hMark =>
      absurd (isPlainChar_of_mem_cleanReference hMark) (by decide)
    rcases isSound_of_fromRoot? hPage hMark hRoot with ⟨u, hSound, rfl⟩
    exact .inr (.inr hSound.exists_parse_text)

/- A page of a shop that is known by its numeric address. -/
def sample : Page :=
  { address := "http://[::1]/1"
    url :=
      { scheme := "http"
        authority := some ⟨"", some (.six [0, 0, 0, 0, 0, 0, 0, 1]), none⟩
        path := ['/', '1']
        query := none
        fragment := none }
    host := "[::1]" }

theorem ofAddress_sample :
    ofAddress "http://[::1]/1" = .ok sample := by
  decide +kernel

/- A reference in the place of the root of the site. -/
theorem mediaUrl_readable_sample :
    sample.mediaUrl? "../a.png" = some "http://[::1]/a.png" ∧
      ∃ u, Url.parse "http://[::1]/a.png" = .ok u := by
  have hMedium :
      sample.mediaUrl? "../a.png" = some "http://[::1]/a.png" := by
    decide +kernel
  refine ⟨hMedium, ?_⟩
  rcases mediaUrl_readable ofAddress_sample (.inl rfl) hMedium with
    ⟨hStart, _⟩ | ⟨hStart, _⟩ | hRead
  · exact absurd hStart (by decide +kernel)
  · exact absurd hStart (by decide +kernel)
  · exact hRead

/- The name of a file that starts with `http` is no URL. -/
theorem file_name_is_no_url :
    ofAddress "http://[::1]/1" = .ok sample ∧
      sample.mediaUrl? "http.jpg" = some "http.jpg" ∧
      Url.parse "http.jpg" = .error .relative := by
  decide +kernel

end Page

------------------------------------------------------------
-- Media of Records
------------------------------------------------------------

namespace Extract

variable {N : Type}
variable [Cursor N]
variable {page : Page}
variable {url : String}

/- Items of a field are items of a match. -/
theorem exists_match_of_mem
    {β : Type}
    {root : N}
    {rows : Match N → List β}
    {candidates : List Selector}
    {item : β}
    (hItem : item ∈ (firstUseful root
      (fun found => nonEmpty (found.flatMap rows)) candidates).getD []) :
    ∃ m, item ∈ rows m := by
  cases hValue : firstUseful root
      (fun found => nonEmpty (found.flatMap rows)) candidates with
  | none =>
      rw [hValue] at hItem
      cases hItem
  | some items =>
      rw [hValue, Option.getD_some] at hItem
      rcases exists_read_of_firstUseful root _ hValue with ⟨found, hFound⟩
      rw [(nonEmpty_eq_some_iff.mp hFound).2.symm] at hItem
      rcases List.mem_flatMap.mp hItem with ⟨m, _, hMem⟩
      exact ⟨m, hMem⟩

/- Media of references are media that the page refers to. -/
theorem isMedium_of_mem_mediaUrls
    {references : List String}
    (hUrl : url ∈ page.mediaUrls references) :
    page.IsMedium url := by
  rcases List.mem_filterMap.mp hUrl with ⟨raw, _, hMedium⟩
  exact ⟨raw, hMedium⟩

/- The pictures of a match are media. -/
theorem isMedium_of_mem_coverOf
    {m : Match N}
    (hUrl : url ∈ coverOf page m) :
    page.IsMedium url := by
  rw [coverOf] at hUrl
  split at hUrl
  · exact isMedium_of_mem_mediaUrls hUrl
  · exact isMedium_of_mem_mediaUrls hUrl

/- The media in the passages of a match are media. -/
theorem isMedium_of_mem_passagesOf
    {m : Match N}
    (hUrl : .media url ∈ passagesOf page m) :
    page.IsMedium url := by
  rw [passagesOf] at hUrl
  split at hUrl
  · rcases List.mem_flatMap.mp hUrl with ⟨line, _, hPassage⟩
    rcases List.mem_append.mp hPassage with hText | hMedia
    · split at hText
      · cases hText
      · cases List.mem_singleton.mp hText
    · rcases List.mem_map.mp hMedia with ⟨medium, hMem, hSame⟩
      cases hSame
      exact isMedium_of_mem_mediaUrls hMem
  · rcases List.mem_map.mp hUrl with ⟨v, _, hSame⟩
    cases hSame

/- A row over media has one of them, or none. -/
theorem exists_medium_of_mem_overMedia
    {β : Type}
    {row : String → β}
    {media : List String}
    {item : β}
    (hItem : item ∈ overMedia row media) :
    ∃ medium, item = row medium ∧ (medium = "" ∨ medium ∈ media) := by
  rw [overMedia] at hItem
  split at hItem
  · exact ⟨"", List.mem_singleton.mp hItem, .inl rfl⟩
  · rcases List.mem_map.mp hItem with ⟨medium, hMem, rfl⟩
    exact ⟨medium, rfl, .inr hMem⟩

/- The medium of a row of the specification. -/
theorem isMedium_of_mem_traits
    {m : Match N}
    {trait : Trait}
    (hTrait : trait ∈ traits page m) :
    trait.media = "" ∨ page.IsMedium trait.media := by
  rw [traits] at hTrait
  cases hHit : m.hit with
  | node n =>
      rw [hHit] at hTrait
      dsimp only at hTrait
      split at hTrait
      · cases hTrait
      · rcases exists_medium_of_mem_overMedia hTrait with
          ⟨medium, rfl, hMedium⟩
        exact hMedium.imp_right isMedium_of_mem_mediaUrls
  | values vs =>
      rw [hHit] at hTrait
      dsimp only at hTrait
      split at hTrait
      · cases hTrait
      · rcases exists_medium_of_mem_overMedia hTrait with
          ⟨medium, rfl, hMedium⟩
        exact .inl (hMedium.resolve_right nofun)

/- The medium of a row on offer. -/
theorem isMedium_of_mem_offers
    {m : Match N}
    {offer : Offer}
    (hOffer : offer ∈ offers page m) :
    offer.media = "" ∨ page.IsMedium offer.media := by
  rw [offers] at hOffer
  cases hHit : m.hit with
  | node n =>
      rw [hHit] at hOffer
      dsimp only at hOffer
      split at hOffer
      · cases hOffer
      · rcases exists_medium_of_mem_overMedia hOffer with
          ⟨medium, rfl, hMedium⟩
        exact hMedium.imp_right isMedium_of_mem_mediaUrls
  | values vs =>
      rw [hHit] at hOffer
      dsimp only at hOffer
      split at hOffer
      · cases hOffer
      · rcases exists_medium_of_mem_overMedia hOffer with
          ⟨medium, rfl, hMedium⟩
        exact .inl (hMedium.resolve_right nofun)

/- The media of a record are media that its page refers to. -/
theorem isMedium_of_mem_assemble
    {t : Template}
    {now : Moment}
    {root : N}
    {order : Option N}
    (hUrl : url ∈ (assemble page t now root order).record.mediaUrls)
    (hSome : url ≠ "") :
    page.IsMedium url := by
  simp only [assemble, Record.mediaUrls, List.mem_append] at hUrl
  rcases hUrl with ((hCover | hDescription) | hTrait) | hOffer
  · rcases exists_match_of_mem hCover with ⟨m, hMem⟩
    exact isMedium_of_mem_coverOf hMem
  · rcases List.mem_filterMap.mp hDescription with
      ⟨passage, hPassage, hMedia⟩
    rcases exists_match_of_mem hPassage with ⟨m, hMem⟩
    cases passage with
    | text s => cases hMedia
    | media medium =>
        cases hMedia
        exact isMedium_of_mem_passagesOf hMem
  · rcases List.mem_map.mp hTrait with ⟨trait, hMem, rfl⟩
    rcases exists_match_of_mem hMem with ⟨m, hRow⟩
    exact (isMedium_of_mem_traits hRow).resolve_left hSome
  · rcases List.mem_map.mp hOffer with ⟨offer, hMem, rfl⟩
    rcases exists_match_of_mem hMem with ⟨m, hRow⟩
    exact (isMedium_of_mem_offers hRow).resolve_left hSome

/-
  The files of a record are found at addresses that ask nothing
  and end no line, and are named by them, whatever was fetched.
-/
theorem mediaFiles_plain
    {address : String}
    {t : Template}
    {now : Moment}
    {arrangement : Markup.Arrangement}
    {content : Content}
    {file : MediaFile}
    (hPage : Page.ofAddress address = .ok page)
    (hFile :
      file ∈
        (record page t now arrangement content).record.mediaFiles) :
    file.url ≠ "" ∧ '?' ∉ file.url.toList ∧ '\r' ∉ file.url.toList ∧
      '\n' ∉ file.url.toList ∧ file.name = mediaName file.url := by
  rcases List.mem_map.mp hFile with ⟨url, hUrl, rfl⟩
  rw [List.mem_eraseDups, List.mem_filter] at hUrl
  rcases hUrl with ⟨hMem, hSome⟩
  have hText : url ≠ "" := by simpa using hSome
  have hMedium : page.IsMedium url := by
    cases content with
    | markup body order => exact isMedium_of_mem_assemble hMem hText
    | data bytes => exact isMedium_of_mem_assemble hMem hText
  have hPlain := (hMedium.plain hPage).2
  refine ⟨hText, fun hc => ?_, fun hc => ?_, fun hc => ?_, rfl⟩
  · exact absurd (hPlain _ hc) (by decide)
  · exact absurd (hPlain _ hc) (by decide)
  · exact absurd (hPlain _ hc) (by decide)

/- A picture that data refers to with a query and a line end. -/
def sampleCover : Template :=
  { Template.blank "[::1]" .json with
    cover := [⟨"c", [], ⟨["c"], none⟩⟩] }

def sampleData : Content :=
  .data "\x7b\"c\":\"/a\\n.png?1\"\x7d".toUTF8.toList

theorem mediaFiles_plain_sample :
    ∃ file ∈ (record Page.sample sampleCover ⟨⟨2024, 2, 29⟩, 12, 0, 0, 0⟩
        .source sampleData).record.mediaFiles,
      file.url = "http://[::1]/a.png" ∧ '?' ∉ file.url.toList := by
  have hFiles :
      (record Page.sample sampleCover ⟨⟨2024, 2, 29⟩, 12, 0, 0, 0⟩
        .source sampleData).record.mediaFiles =
          [.ofUrl "http://[::1]/a.png"] := by
    decide +kernel
  have hFile :
      MediaFile.ofUrl "http://[::1]/a.png" ∈
        (record Page.sample sampleCover ⟨⟨2024, 2, 29⟩, 12, 0, 0, 0⟩
          .source sampleData).record.mediaFiles := by
    rw [hFiles]
    exact List.mem_singleton_self _
  exact ⟨_, hFile, rfl,
    (mediaFiles_plain Page.ofAddress_sample hFile).2.1⟩

end Extract

end Gleaner
