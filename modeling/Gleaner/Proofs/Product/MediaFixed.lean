import Gleaner.Proofs.Product.MediaUrl
import Gleaner.Proofs.Url.Drives

/-
  The address of a medium is taken for a reference once more: when
  it stays as it is, and when the reference was data.

  Main declarations:
    * `Page.IsTaken`
    * `Page.mediaUrl?_of_http_iff`
    * `Page.mediaUrl?_text_iff`
    * `Page.mediaUrl_again_iff`
    * `Page.mediaUrl_data_iff`
-/

namespace Gleaner

namespace Page

variable {address raw url : String}
variable {p : Page}
variable {root u : Url}
variable {cs : List Char}

------------------------------------------------------------
-- Texts of Addresses
------------------------------------------------------------

theorem toList_http : "http".toList = ['h', 't', 't', 'p'] := by
  decide

theorem toList_data : "data:".toList = ['d', 'a', 't', 'a', ':'] := by
  decide

theorem toList_slash : "/".toList = ['/'] := by
  decide

/- What starts with two slashes starts with one. -/
theorem startsWith_slash_of_slashes
    (hSlashes : Text.startsWith "//".toList cs = true) :
    Text.startsWith "/".toList cs = true := by
  have hOne : "/".toList <+: "//".toList := by decide
  exact Text.startsWith_iff.mpr
    (hOne.trans (Text.startsWith_iff.mp hSlashes))

/- The text starts like the addresses of pages. -/
def IsHttp (cs : List Char) : Prop :=
  "http".toList <+: cs

/- Of a text without queries and line ends, only blanks are cut. -/
theorem cleanReference_of_plain
    (hPlain : ∀ c ∈ url.toList, Url.isPlainChar c = true) :
    cleanReference url = Text.trim url.toList := by
  have hFlat :
      url.toList.filter (fun c => c != '\r' && c != '\n') = url.toList := by
    apply List.filter_eq_self.mpr
    intro c hc
    have hChar := hPlain c hc
    rw [Url.isPlainChar, Bool.and_assoc, Bool.and_eq_true] at hChar
    exact hChar.2
  rw [cleanReference, hFlat]
  apply List.takeWhile_eq_self_iff.mpr
  intro c hc
  have hChar := hPlain c (Text.mem_of_mem_trim hc)
  rw [Url.isPlainChar, Bool.and_assoc, Bool.and_eq_true] at hChar
  exact hChar.1

/- A reference that starts with `http` is taken as it stands. -/
theorem mediaUrl?_eq_of_http
    (p : Page)
    (hHttp : IsHttp (cleanReference raw)) :
    p.mediaUrl? raw = some (String.ofList (cleanReference raw)) := by
  have hStart := Text.startsWith_iff.mpr hHttp
  have hUseful :
      ((cleanReference raw).isEmpty ||
        Text.startsWith "data:".toList (cleanReference raw)) = false := by
    rcases hHttp with ⟨rest, hText⟩
    rw [← hText, toList_http, toList_data]
    rfl
  rw [mediaUrl?]
  dsimp only
  rw [hUseful, if_neg Bool.false_ne_true, if_pos hStart]

/-
  A reference that starts neither with `http` nor with a slash, and
  that is no data, is resolved at the root of the site.
-/
theorem mediaUrl?_eq_fromRoot?
    (p : Page)
    (hSome : cleanReference raw ≠ [])
    (hData : Text.startsWith "data:".toList (cleanReference raw) = false)
    (hHttp : Text.startsWith "http".toList (cleanReference raw) = false)
    (hSlash : Text.startsWith "/".toList (cleanReference raw) = false) :
    p.mediaUrl? raw = p.fromRoot? (cleanReference raw) := by
  have hSlashes : Text.startsWith "//".toList (cleanReference raw) = false := by
    apply eq_false_of_ne_true
    intro hTwo
    rw [startsWith_slash_of_slashes hTwo] at hSlash
    cases hSlash
  have hUseful :
      ((cleanReference raw).isEmpty ||
        Text.startsWith "data:".toList (cleanReference raw)) = false := by
    rw [hData, Bool.or_false]
    simpa using hSome
  rw [mediaUrl?]
  dsimp only
  rw [hUseful, if_neg Bool.false_ne_true,
    if_neg (ne_true_of_eq_false hHttp),
    if_neg (ne_true_of_eq_false hSlashes),
    if_neg (ne_true_of_eq_false hSlash)]

/-
  A reference that starts with a slash is put behind a scheme or
  behind the origin of the page.
-/
theorem mediaUrl?_of_slash
    (p : Page)
    (hSlash : "/".toList <+: cleanReference raw) :
    p.mediaUrl? raw =
        some (String.ofList ("http:".toList ++ cleanReference raw)) ∨
      p.mediaUrl? raw =
        some (p.url.origin ++ String.ofList (cleanReference raw)) := by
  rcases hSlash with ⟨rest, hText⟩
  rw [toList_slash, List.singleton_append] at hText
  have hUseful :
      (('/' :: rest).isEmpty ||
        Text.startsWith "data:".toList ('/' :: rest)) = false := by
    rw [toList_data]
    rfl
  have hNoHttp : Text.startsWith "http".toList ('/' :: rest) = false := by
    rw [toList_http]
    rfl
  have hOne : Text.startsWith "/".toList ('/' :: rest) = true := by
    rw [toList_slash]
    rfl
  rw [mediaUrl?]
  dsimp only
  rw [← hText, if_neg (ne_true_of_eq_false hUseful),
    if_neg (ne_true_of_eq_false hNoHttp), if_pos hOne]
  split
  · exact .inl rfl
  · exact .inr rfl

/- What is resolved at the root of the site. -/
theorem fromRoot?_eq_some
    {reference : List Char}
    (hRoot : Url.parse p.url.origin = .ok root)
    (hJoin : root.join (String.ofList reference) = .ok u) :
    p.fromRoot? reference = some u.text := by
  rw [fromRoot?, hRoot]
  dsimp only
  rw [hJoin]

/- A reference that starts with `data:` has no address. -/
theorem mediaUrl?_eq_none
    (p : Page)
    (hData : Text.startsWith "data:".toList (cleanReference raw) = true) :
    p.mediaUrl? raw = none := by
  rw [mediaUrl?]
  dsimp only
  rw [if_pos (Bool.or_eq_true _ _ ▸ .inr hData)]

/-
  An address that starts with `http` stays as it is exactly if no
  white space stands at its end.
-/
theorem mediaUrl?_of_http_iff
    (p : Page)
    (hPlain : ∀ c ∈ url.toList, Url.isPlainChar c = true)
    (hHttp : IsHttp url.toList) :
    p.mediaUrl? url = some url ↔ ¬Text.EndsBlank url.toList := by
  rcases hHttp with ⟨rest, hText⟩
  have hClean : cleanReference url = Text.trimEnd url.toList := by
    rw [cleanReference_of_plain hPlain, Text.trim, ← hText, toList_http,
      List.cons_append, Text.trimStart_cons (by decide)]
  have hStart : IsHttp (cleanReference url) := by
    refine ⟨Text.trimEnd rest, ?_⟩
    rw [hClean, ← hText, Text.trimEnd_append_of_not_blank]
    rw [toList_http, List.forall_mem_cons, List.forall_mem_cons,
      List.forall_mem_cons, List.forall_mem_singleton]
    decide
  rw [mediaUrl?_eq_of_http p hStart, hClean, ← Text.trimEnd_eq_self_iff,
    Option.some.injEq, ← String.toList_inj, String.toList_ofList]

------------------------------------------------------------
-- Written URLs
------------------------------------------------------------

/- The text of a URL that asks nothing is a clean reference. -/
theorem cleanReference_text
    (hSettled : Url.IsSettled u)
    (hSound : Url.IsSound false u) :
    cleanReference u.text = u.write := by
  have hText : u.text.toList = u.write := by
    rw [Url.text, String.toList_ofList]
  have hPlain : ∀ c ∈ u.text.toList, Url.isPlainChar c = true := by
    rw [hText]
    exact fun c => hSound.isPlainChar_of_mem_write
  rw [cleanReference_of_plain hPlain, hText, hSettled.trim_write hSound]

/- The scheme of data. -/
theorem isScheme_data : Url.IsScheme "data" := by
  refine ⟨⟨'d', ['a', 't', 'a'], by decide, by decide⟩,
    List.all_eq_true.mp (by decide), ?_⟩
  apply String.toList_injective
  rw [Url.toList_toLower]
  decide

/- A written URL starts with `data:` exactly if that is its scheme. -/
theorem startsWith_data_iff
    (hScheme : Url.IsScheme u.scheme) :
    Text.startsWith "data:".toList u.write = true ↔ u.scheme = "data" := by
  have hLetters : "data:".toList = "data".toList ++ [':'] := by decide
  rw [Text.startsWith_iff, Url.write_eq_behind, hLetters]
  constructor
  · rintro ⟨rest, hText⟩
    rw [List.append_assoc, List.singleton_append] at hText
    -- both texts start with a scheme and a colon
    have hTake := hScheme.takeScheme?_append u.behind
    rw [← hText, isScheme_data.takeScheme?_append, Option.some.injEq,
      Prod.mk.injEq] at hTake
    exact hTake.1.symm
  · intro hData
    rw [hData]
    exact ⟨u.behind, by simp⟩

/- A written URL starts with a letter, and not with a slash. -/
theorem startsWith_slash_write
    (hScheme : Url.IsScheme u.scheme) :
    Text.startsWith "/".toList u.write = false := by
  rcases hScheme.starts with ⟨c, name, hText, hLetter⟩
  have hOther : c ≠ '/' := by
    rintro rfl
    cases hLetter
  rw [Url.write_eq_behind, hText, toList_slash]
  simp [Text.startsWith, Text.dropPrefix?, hOther.symm]

/- A URL whose text starts with `http` is neither of files nor data. -/
theorem scheme_of_http
    (hScheme : Url.IsScheme u.scheme)
    (hHttp : IsHttp u.write) :
    u.scheme ≠ "data" ∧ u.kind ≠ .file := by
  rcases hScheme.starts with ⟨c, name, hText, _⟩
  rcases hHttp with ⟨rest, hWrite⟩
  rw [Url.write_eq_behind, hText, toList_http] at hWrite
  simp only [List.cons_append, List.cons.injEq] at hWrite
  have hHead : u.scheme.toList.head? = some 'h' := by
    rw [hText, hWrite.1]
    rfl
  constructor
  · intro hData
    rw [hData] at hHead
    exact absurd hHead (by decide)
  · intro hFile
    rw [Url.eq_file_of_ofScheme hFile] at hHead
    exact absurd hHead (by decide)

/- The schemes of pages start with `http`. -/
theorem isHttp_append
    {scheme : String}
    (hScheme : scheme = "http" ∨ scheme = "https")
    (rest : List Char) :
    IsHttp (scheme.toList ++ rest) := by
  have hLonger : "https".toList = "http".toList ++ ['s'] := by decide
  rcases hScheme with rfl | rfl
  · exact List.prefix_append _ _
  · rw [hLonger, List.append_assoc]
    exact List.prefix_append _ _

/-
  A written URL that starts neither with `http` nor as data is read
  once more at the root of the site, like a URL of its own.
-/
theorem exists_mediaUrl?_text
    (hRoot : Url.parse p.url.origin = .ok root)
    (hScheme : root.scheme = "http" ∨ root.scheme = "https")
    (hSettled : Url.IsSettled u)
    (hSound : Url.IsSound false u)
    (hHttp : Text.startsWith "http".toList u.write = false)
    (hData : u.scheme ≠ "data") :
    ∃ v, Url.parse u.text = .ok v ∧ p.mediaUrl? u.text = some v.text := by
  have hFront := hSound.front.isScheme
  have hFiles : root.scheme ≠ "file" := by
    rcases hScheme with hSame | hSame
    · rw [hSame]
      decide
    · rw [hSame]
      decide
  have hOther : root.scheme ≠ u.scheme := by
    intro hSame
    rw [hSame] at hScheme
    rw [Url.write_eq_behind,
      Text.startsWith_iff.mpr (isHttp_append hScheme _)] at hHttp
    cases hHttp
  have hNoData : Text.startsWith "data:".toList u.write = false := by
    rw [← Bool.not_eq_true, startsWith_data_iff hFront]
    exact hData
  have hSome : u.write ≠ [] := by
    intro hNone
    rw [Url.write_eq_behind] at hNone
    simp at hNone
  rcases hSound.exists_parse_text with ⟨v, hParse⟩
  have hJoin : root.join (String.ofList u.write) = .ok v :=
    (hSettled.join_text hSound hFiles hOther).trans hParse
  have hClean := cleanReference_text hSettled hSound
  refine ⟨v, hParse, ?_⟩
  rw [← hClean] at hHttp hNoData hSome hJoin
  have hNoSlash :
      Text.startsWith "/".toList (cleanReference u.text) = false := by
    rw [hClean]
    exact startsWith_slash_write hFront
  rw [mediaUrl?_eq_fromRoot? p hSome hNoData hHttp hNoSlash]
  exact fromRoot?_eq_some hRoot hJoin

/-
  The text of a URL that asks nothing is its own address, unless
  it is data, or a URL of files that is read in another way.
-/
theorem mediaUrl?_text_iff
    (hRoot : Url.parse p.url.origin = .ok root)
    (hScheme : root.scheme = "http" ∨ root.scheme = "https")
    (hSettled : Url.IsSettled u)
    (hSound : Url.IsSound false u) :
    p.mediaUrl? u.text = some u.text ↔
      u.scheme ≠ "data" ∧ (u.kind = .file → u.IsStill) := by
  have hFront := hSound.front.isScheme
  have hClean := cleanReference_text hSettled hSound
  cases hHttp : Text.startsWith "http".toList u.write with
  | true =>
      have hStart := Text.startsWith_iff.mp hHttp
      rcases scheme_of_http hFront hStart with ⟨hNoData, hNoFile⟩
      have hTaken : p.mediaUrl? u.text = some u.text := by
        rw [mediaUrl?_eq_of_http p (by rwa [hClean]), hClean, Url.text]
      exact iff_of_true hTaken ⟨hNoData, fun hFile => absurd hFile hNoFile⟩
  | false =>
      by_cases hData : u.scheme = "data"
      · have hStart := (startsWith_data_iff hFront).mpr hData
        rw [mediaUrl?_eq_none p (by rwa [hClean])]
        exact iff_of_false (Option.some_ne_none _).symm
          fun hKept => hKept.1 hData
      · rcases exists_mediaUrl?_text hRoot hScheme hSettled hSound hHttp
          hData with ⟨v, hParse, hMedium⟩
        rw [hMedium, Option.some.injEq, and_iff_right hData]
        by_cases hKind : u.kind = .file
        · rcases hSettled.text_parse_text_iff hSound hKind with
            ⟨w, hAgain, hStill⟩
          rw [hParse, Except.ok.injEq] at hAgain
          rw [hAgain, hStill]
          exact ⟨fun hKept _ => hKept, fun hKept => hKept hKind⟩
        · rw [hSettled.parse_text hSound hKind, Except.ok.injEq] at hParse
          rw [← hParse]
          exact iff_of_true rfl fun hFile => absurd hFile hKind

------------------------------------------------------------
-- Addresses as References
------------------------------------------------------------

/- Pages are on the web. -/
theorem kind_of_scheme
    (hScheme : u.scheme = "http" ∨ u.scheme = "https") :
    u.kind = .web := by
  rw [Url.kind]
  rcases hScheme with hHttp | hHttps
  · rw [hHttp]
    decide
  · rw [hHttps]
    decide

/- The root of the site of a page on the web. -/
theorem exists_root
    (hPage : ofAddress address = .ok p)
    (hScheme : p.url.scheme = "http" ∨ p.url.scheme = "https") :
    ∃ root, Url.parse p.url.origin = .ok root ∧
      (root.scheme = "http" ∨ root.scheme = "https") ∧
      Url.IsWeb root ∧ Url.IsSound false root := by
  have hSound := isSound_of_ofAddress hPage
  have hKind := kind_of_scheme hScheme
  have hNoQuery : '?' ∉ p.url.origin.toList := fun hMark =>
    absurd (hSound.isPlainChar_of_mem_origin hMark) (by decide)
  have hEnd : Url.EndsServer .web [] := nofun
  rcases hSound.exists_parse_origin hKind hEnd with ⟨root, hParse⟩
  have hEmpty : String.ofList [] = "" := rfl
  rw [hEmpty, String.append_empty] at hParse
  have hRootSound : Url.IsSound false root :=
    Url.isSound_of_parse (fun _ => hNoQuery) hParse
  have hSettled := Url.isSettled_of_parse hParse
  have hSame : root.scheme = p.url.scheme := by
    rcases hSound.front.hasHost hKind with ⟨a, hServer, hHost⟩
    rw [Url.origin_eq_server hKind hServer hHost,
      hSound.front.isScheme.parse_append] at hParse
    exact Url.scheme_of_readScheme hParse
  have hWeb : root.kind = .web := by
    rw [Url.kind, hSame]
    exact hKind
  rw [← hSame] at hScheme
  exact ⟨root, hParse, hScheme,
    Url.isWeb_of_isSound hSettled hRootSound hWeb, hRootSound⟩

/-
  The reference is taken as it is spelled, or put behind the scheme
  or the origin of a page.
-/
def IsTaken (reference : List Char) : Prop :=
  Text.startsWith "http".toList reference = true ∨
    Text.startsWith "/".toList reference = true

/- An address of a reference that is taken starts with `http`. -/
theorem isHttp_of_isTaken
    (hPage : ofAddress address = .ok p)
    (hScheme : p.url.scheme = "http" ∨ p.url.scheme = "https")
    (hTaken : IsTaken (cleanReference raw))
    (hMedium : p.mediaUrl? raw = some url) :
    IsHttp url.toList := by
  rcases hTaken with hHttp | hSlash
  · have hStart := Text.startsWith_iff.mp hHttp
    rw [mediaUrl?_eq_of_http p hStart, Option.some.injEq] at hMedium
    rw [← hMedium, String.toList_ofList]
    exact hStart
  · rcases mediaUrl?_of_slash p (Text.startsWith_iff.mp hSlash) with
      hSame | hSame
    · rw [hSame, Option.some.injEq] at hMedium
      have hHttp : "http:".toList = "http".toList ++ [':'] := by decide
      rw [← hMedium, String.toList_ofList, hHttp, List.append_assoc]
      exact List.prefix_append _ _
    · have hSound := isSound_of_ofAddress hPage
      have hKind := kind_of_scheme hScheme
      rcases hSound.front.hasHost hKind with ⟨a, hServer, hHost⟩
      rw [hSame, Option.some.injEq] at hMedium
      rw [← hMedium, String.toList_append,
        Url.origin_eq_server hKind hServer hHost, String.toList_ofList,
        List.append_assoc]
      exact isHttp_append hScheme _

/-
  The address of any other reference is the text of a URL, to which
  the reference is resolved at the root of the site.
-/
theorem exists_of_not_isTaken
    (hPage : ofAddress address = .ok p)
    (hScheme : p.url.scheme = "http" ∨ p.url.scheme = "https")
    (hResolved : ¬IsTaken (cleanReference raw))
    (hMedium : p.mediaUrl? raw = some url) :
    ∃ root u, Url.parse p.url.origin = .ok root ∧
      (root.scheme = "http" ∨ root.scheme = "https") ∧
      root.join (String.ofList (cleanReference raw)) = .ok u ∧
      url = u.text ∧ Url.IsSettled u ∧ Url.IsSound false u := by
  rcases exists_root hPage hScheme with
    ⟨root, hRoot, hHttp, hWeb, hRootSound⟩
  have hFound : p.fromRoot? (cleanReference raw) = some url := by
    rcases mediaUrl?_cases hMedium with
      ⟨_, ⟨hStart, _⟩ | ⟨hSlashes, _⟩ | ⟨hSlash, _⟩ | hFound⟩
    · exact absurd (.inl hStart) hResolved
    · exact absurd (.inr (startsWith_slash_of_slashes hSlashes)) hResolved
    · exact absurd (.inr hSlash) hResolved
    · exact hFound
  rw [fromRoot?, hRoot] at hFound
  dsimp only at hFound
  split at hFound
  · rename_i u hJoin
    cases hFound
    refine ⟨root, u, hRoot, hHttp, hJoin, rfl, ?_, ?_⟩
    · refine Url.isSettled_read ?_ hJoin
      rintro b ⟨⟩
      exact hWeb
    · refine Url.isSound_read ?_ (fun _ hMark => ?_) hJoin
      · rintro b ⟨⟩
        exact hRootSound
      · rw [String.toList_ofList] at hMark
        exact absurd (isPlainChar_of_mem_cleanReference hMark) (by decide)
  · cases hFound

/-
  An address that is taken for a reference stays as it is, unless
  white space is left at its end where a query was cut, or its
  scheme is data, or it is one of files that is read in another way.
-/
theorem mediaUrl_again_iff
    (hPage : ofAddress address = .ok p)
    (hScheme : p.url.scheme = "http" ∨ p.url.scheme = "https")
    (hMedium : p.mediaUrl? raw = some url) :
    (IsTaken (cleanReference raw) →
        (p.mediaUrl? url = some url ↔ ¬Text.EndsBlank url.toList)) ∧
      (¬IsTaken (cleanReference raw) →
        ∃ root u, Url.parse p.url.origin = .ok root ∧
          root.join (String.ofList (cleanReference raw)) = .ok u ∧
          url = u.text ∧
          (p.mediaUrl? url = some url ↔
            u.scheme ≠ "data" ∧ (u.kind = .file → u.IsStill))) := by
  constructor
  · intro hTaken
    exact mediaUrl?_of_http_iff p (IsMedium.plain hPage ⟨raw, hMedium⟩).2
      (isHttp_of_isTaken hPage hScheme hTaken hMedium)
  · intro hResolved
    rcases exists_of_not_isTaken hPage hScheme hResolved hMedium with
      ⟨root, u, hRoot, hHttp, hJoin, rfl, hSettled, hSound⟩
    exact ⟨root, u, hRoot, hJoin, rfl,
      mediaUrl?_text_iff hRoot hHttp hSettled hSound⟩

/- A reference from the root, and its address. -/
theorem mediaUrl_again_sample :
    sample.mediaUrl? "/a.png" = some "http://[::1]/a.png" ∧
      sample.mediaUrl? "http://[::1]/a.png" =
        some "http://[::1]/a.png" := by
  have hMedium :
      sample.mediaUrl? "/a.png" = some "http://[::1]/a.png" := rfl
  have hTaken : IsTaken (cleanReference "/a.png") := .inr rfl
  have hAgain := (mediaUrl_again_iff ofAddress_sample (.inl rfl) hMedium).1
  exact ⟨hMedium, (hAgain hTaken).mpr (by decide)⟩

/- A blank in front of a query is left, and lost the second time. -/
theorem blank_before_query_is_left :
    ofAddress "http://[::1]/1" = .ok sample ∧
      sample.mediaUrl? "/a.jpg ?v=2" = some "http://[::1]/a.jpg " ∧
      sample.mediaUrl? "http://[::1]/a.jpg " =
        some "http://[::1]/a.jpg" :=
  ⟨ofAddress_sample, rfl, rfl⟩

------------------------------------------------------------
-- Data
------------------------------------------------------------

/- A text that starts with `http` is no data. -/
theorem scheme_ne_data_of_isHttp
    (hHttp : IsHttp url.toList)
    (hParse : Url.parse url = .ok u) :
    u.scheme ≠ "data" := by
  rcases hHttp with ⟨rest, hText⟩
  have hClean :
      Url.clean url.toList =
        'h' :: Url.cleanEnd ('t' :: 't' :: 'p' :: rest) := by
    rw [← hText, toList_http]
    show Url.clean ('h' :: 't' :: 't' :: 'p' :: rest) = _
    rw [Url.clean_eq_cleanEnd, Url.cleanEnd_cons _ (by decide)]
    rintro c ⟨⟩
    decide
  intro hData
  rcases Url.scheme_of_read hParse with ⟨behind, hTake, _⟩ | ⟨b, hb, _⟩
  · rw [hClean, hData] at hTake
    exact absurd (Url.head?_of_takeScheme? hTake).2 (by decide)
  · cases hb

/- A text that starts with a slash has no scheme. -/
theorem takeScheme?_of_slash
    (hSlash : Text.startsWith "/".toList cs = true) :
    Url.takeScheme? (Url.clean cs) = none := by
  rcases Text.startsWith_iff.mp hSlash with ⟨rest, hText⟩
  have hClean : Url.clean cs = '/' :: Url.cleanEnd rest := by
    rw [← hText, toList_slash, List.singleton_append, Url.clean_eq_cleanEnd,
      Url.cleanEnd_cons _ (by decide)]
    rintro c ⟨⟩
    decide
  rw [hClean]
  cases hTake : Url.takeScheme? ('/' :: Url.cleanEnd rest) with
  | none => rfl
  | some found =>
      exact absurd (Url.head?_of_takeScheme? hTake).1 (by decide)

/- Data is read the same way alone and in the place of a page. -/
theorem join_data_iff
    {s : String}
    (hScheme : root.scheme = "http" ∨ root.scheme = "https") :
    root.join s = .ok u ∧ u.scheme = "data" ↔
      Url.parse s = .ok u ∧ u.scheme = "data" := by
  have hNot : root.scheme ≠ "file" ∧ root.scheme ≠ "data" := by
    rcases hScheme with hSame | hSame
    · rw [hSame]
      decide
    · rw [hSame]
      decide
  constructor
  · rintro ⟨hJoin, hData⟩
    refine ⟨?_, hData⟩
    rcases Url.scheme_of_read hJoin with ⟨rest, hTake, hRead⟩ | ⟨b, hb, hSame⟩
    · rw [hData] at hTake hRead
      rw [Url.parse, Url.read_of_takeScheme? none hTake,
        ← Url.readScheme_of_ne hNot.1 hNot.2]
      exact hRead
    · cases hb
      exact absurd (hSame.symm.trans hData) hNot.2
  · rintro ⟨hParse, hData⟩
    refine ⟨?_, hData⟩
    rcases Url.scheme_of_read hParse with ⟨rest, hTake, hRead⟩ | ⟨b, hb, _⟩
    · rw [hData] at hTake hRead
      rw [Url.join, Url.read_of_takeScheme? (some root) hTake,
        Url.readScheme_of_ne hNot.1 hNot.2]
      exact hRead
    · cases hb

/- A text that is read as data starts like no address of the web. -/
theorem startsWith_of_data
    (hParse : Url.parse (String.ofList cs) = .ok u)
    (hData : u.scheme = "data") :
    cs ≠ [] ∧ Text.startsWith "http".toList cs = false ∧
      Text.startsWith "/".toList cs = false := by
  have hTake : (Url.takeScheme? (Url.clean cs)).isSome = true := by
    rcases Url.scheme_of_read hParse with ⟨rest, hTake, _⟩ | ⟨b, hb, _⟩
    · rw [String.toList_ofList] at hTake
      rw [hTake]
      rfl
    · cases hb
  refine ⟨?_, ?_, ?_⟩
  · rintro rfl
    cases hTake
  · apply eq_false_of_ne_true
    intro hStart
    refine scheme_ne_data_of_isHttp ?_ hParse hData
    rw [String.toList_ofList]
    exact Text.startsWith_iff.mp hStart
  · apply eq_false_of_ne_true
    intro hStart
    rw [takeScheme?_of_slash hStart] at hTake
    cases hTake

/- A reference whose address is data is data, in another spelling. -/
theorem data_of_mediaUrl?
    (hPage : ofAddress address = .ok p)
    (hScheme : p.url.scheme = "http" ∨ p.url.scheme = "https")
    (hMedium : p.mediaUrl? raw = some url)
    (hParse : Url.parse url = .ok u)
    (hData : u.scheme = "data") :
    (∃ v, Url.parse (String.ofList (cleanReference raw)) = .ok v ∧
        v.scheme = "data") ∧
      Text.startsWith "data:".toList (cleanReference raw) = false := by
  constructor
  · by_cases hTaken : IsTaken (cleanReference raw)
    · have hHttp := isHttp_of_isTaken hPage hScheme hTaken hMedium
      exact absurd hData (scheme_ne_data_of_isHttp hHttp hParse)
    · rcases exists_of_not_isTaken hPage hScheme hTaken hMedium with
        ⟨root, v, _, hHttp, hJoin, rfl, hSettled, hSound⟩
      have hSame : v.scheme = "data" := by
        rw [hSettled.parse_eq_readScheme hSound] at hParse
        rw [← hData]
        exact (Url.scheme_of_readScheme hParse).symm
      exact ⟨v, (join_data_iff hHttp).mp ⟨hJoin, hSame⟩⟩
  · apply eq_false_of_ne_true
    intro hStart
    rw [mediaUrl?_eq_none p hStart] at hMedium
    cases hMedium

/- Data in another spelling than `data:` is its own address. -/
theorem mediaUrl?_eq_text_of_data
    (hPage : ofAddress address = .ok p)
    (hScheme : p.url.scheme = "http" ∨ p.url.scheme = "https")
    (hParse : Url.parse (String.ofList (cleanReference raw)) = .ok u)
    (hData : u.scheme = "data")
    (hUnlike : Text.startsWith "data:".toList (cleanReference raw) = false) :
    p.mediaUrl? raw = some u.text := by
  rcases exists_root hPage hScheme with ⟨root, hRoot, hHttp, _, _⟩
  rcases (join_data_iff hHttp).mpr ⟨hParse, hData⟩ with ⟨hJoin, _⟩
  rcases startsWith_of_data hParse hData with ⟨hSome, hNoHttp, hNoSlash⟩
  rw [mediaUrl?_eq_fromRoot? p hSome hUnlike hNoHttp hNoSlash]
  exact fromRoot?_eq_some hRoot hJoin

/-
  The address of a medium is data exactly if the reference is data
  as URLs are read, without being spelled `data:`.
-/
theorem mediaUrl_data_iff
    (hPage : ofAddress address = .ok p)
    (hScheme : p.url.scheme = "http" ∨ p.url.scheme = "https") :
    (∃ url u, p.mediaUrl? raw = some url ∧ Url.parse url = .ok u ∧
        u.scheme = "data") ↔
      (∃ u, Url.parse (String.ofList (cleanReference raw)) = .ok u ∧
          u.scheme = "data") ∧
        Text.startsWith "data:".toList (cleanReference raw) = false := by
  constructor
  · rintro ⟨url, u, hMedium, hParse, hData⟩
    exact data_of_mediaUrl? hPage hScheme hMedium hParse hData
  · rintro ⟨⟨u, hParse, hData⟩, hUnlike⟩
    have hNoFile : u.kind ≠ .file := by
      rw [Url.kind, hData]
      decide
    exact ⟨u.text, u,
      mediaUrl?_eq_text_of_data hPage hScheme hParse hData hUnlike,
      Url.parse_text hParse hNoFile, hData⟩

/- Data that is spelled in capitals is data. -/
theorem parse_data_in_capitals :
    Url.parse (String.ofList (cleanReference "DATA:x")) =
      .ok ⟨"data", none, ['x'], none, none⟩ := by
  decide +kernel

/- Data that is spelled in capitals has an address. -/
theorem mediaUrl_data_sample :
    ofAddress "http://[::1]/1" = .ok sample ∧
      ∃ url u, sample.mediaUrl? "DATA:x" = some url ∧
        Url.parse url = .ok u ∧ u.scheme = "data" :=
  ⟨ofAddress_sample, (mediaUrl_data_iff ofAddress_sample (.inl rfl)).mpr
    ⟨⟨_, parse_data_in_capitals, rfl⟩, rfl⟩⟩

/- The scheme of data is put in small letters only after the test. -/
theorem data_in_capitals_is_kept :
    ofAddress "http://[::1]/1" = .ok sample ∧
      sample.mediaUrl? "DATA:x" = some "data:x" ∧
      Url.parse "data:x" = .ok ⟨"data", none, ['x'], none, none⟩ := by
  have hMedium :=
    mediaUrl?_eq_text_of_data ofAddress_sample (.inl rfl)
      parse_data_in_capitals rfl rfl
  have hAgain := Url.parse_text parse_data_in_capitals (by decide)
  exact ⟨ofAddress_sample, hMedium, hAgain⟩

end Page

end Gleaner
