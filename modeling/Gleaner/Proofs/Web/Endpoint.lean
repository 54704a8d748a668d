import Gleaner.Proofs.Text.Replacing
import Gleaner.Proofs.Url.Served
import Gleaner.Web.Endpoint

/-
  The endpoints of shops.  They are at the hosts where they are
  promised, unless `www` stands inside the name of a host and not
  in front of it: what is replaced is the first `www` of the name,
  wherever that is.

  Main declarations:
    * `Web.Endpoint.promisedHost`
    * `Web.Endpoint.hostOf_eq_promisedHost_iff`
    * `Web.Endpoint.parse_promised`
    * `Web.Endpoint.ofAddress_endpoint`
-/

namespace Gleaner

namespace Web

namespace Endpoint

open Text (StandsFirst)

variable {address host : String}
variable {url : Url}
variable {front segment before after rest : List Char}

------------------------------------------------------------
-- Hosts
------------------------------------------------------------

theorem toList_api : "api".toList = ['a', 'p', 'i'] := by
  decide

/- The word that stands in front of the hosts of shops. -/
theorem isWord_www : Domain.IsWord "www".toList := by
  decide

/- The word that stands in front of the hosts of their data. -/
theorem isWord_api : Domain.IsWord "api".toList := by
  decide

theorem www_ne_nil : "www".toList ≠ [] := by
  decide

/-
  The host at which the data of a shop is promised: `www` in front
  of the name is replaced, and every other name stays.
-/
def promisedHost (host : String) : String :=
  match Text.dropPrefix? "www".toList host.toList with
  | some rest => String.ofList ("api".toList ++ rest)
  | none => host

theorem promisedHost_of_front
    (hFront : host.toList = "www".toList ++ rest) :
    promisedHost host = String.ofList ("api".toList ++ rest) := by
  rw [promisedHost, hFront, Text.dropPrefix?_append]

theorem promisedHost_of_other
    (hOther : ¬ "www".toList <+: host.toList) :
    promisedHost host = host := by
  rw [promisedHost, Text.dropPrefix?_eq_none_iff.mpr hOther]

/- The first `www` in the name of a host is replaced. -/
theorem hostOf_of_standsFirst
    (hHost : host.toList = before ++ ("www".toList ++ after))
    (hFirst : StandsFirst "www".toList before) :
    hostOf host = String.ofList (before ++ ("api".toList ++ after)) := by
  rw [hostOf, hHost, Text.replaceFirst_append _ _ www_ne_nil hFirst]

/- A name without `www` stays. -/
theorem hostOf_of_absent
    (hNone : ¬ "www".toList <:+: host.toList) :
    hostOf host = host := by
  rw [hostOf, Text.replaceFirst_of_absent _ hNone, String.ofList_toList]

/-
  The data is sought at the promised host exactly if the name of
  the host starts with `www`, or has no `www` in it.
-/
theorem hostOf_eq_promisedHost_iff :
    hostOf host = promisedHost host ↔
      "www".toList <+: host.toList ∨ ¬ "www".toList <:+: host.toList := by
  constructor
  · intro hSame
    by_contra hInside
    rw [not_or, not_not] at hInside
    rcases Text.exists_standsFirst www_ne_nil hInside.2 with
      ⟨before, after, hHost, hFirst⟩
    rw [hostOf_of_standsFirst hHost hFirst,
      promisedHost_of_other hInside.1] at hSame
    rw [← hSame, String.toList_ofList, List.append_cancel_left_eq,
      List.append_cancel_right_eq] at hHost
    exact absurd hHost (by decide)
  · rintro (⟨rest, hFront⟩ | hNone)
    · rw [promisedHost_of_front hFront.symm]
      exact hostOf_of_standsFirst hFront.symm (Text.standsFirst_nil www_ne_nil)
    · rw [hostOf_of_absent hNone, promisedHost_of_other]
      exact fun hFront => hNone hFront.isInfix

------------------------------------------------------------
-- Addresses
------------------------------------------------------------

/- The path of the data is read as it stands on every host. -/
theorem isFixedPath_path (kind : Url.Kind) :
    Url.IsFixedPath kind path.toList := by
  cases kind <;> decide +kernel

/- The host of an address was read, and does not stand for this computer. -/
theorem exists_host_of_parse
    (hParse : Url.parse address = .ok url)
    (hHost : url.host? = some host) :
    ∃ h, url.authority.isSome = true ∧ Url.IsSound true url ∧
      Url.IsHost url.kind h ∧ h.write = host.toList ∧
      (url.kind = .file → h ≠ .name "localhost") := by
  have hSound : Url.IsSound true url := Url.isSound_of_parse nofun hParse
  have hSettled := Url.isSettled_of_parse hParse
  rw [Url.host?, Option.map_eq_some_iff] at hHost
  rcases hHost with ⟨h, hName, rfl⟩
  rcases Option.bind_eq_some_iff.mp hName with ⟨a, hServer, hSome⟩
  refine ⟨h, Option.isSome_of_eq_some hServer, hSound,
    (hSound.front.isSound a hServer).host h hSome,
    (String.toList_ofList).symm, ?_⟩
  intro hFile hLocal
  apply (hSettled.server a hServer).away hFile
  rw [hSome, hLocal]

/-
  The promised host is one of the same kind, and it does not stand
  for this computer either.
-/
theorem exists_promised_host
    {kind : Url.Kind}
    {h : Url.Host}
    (hHost : Url.IsHost kind h)
    (hName : h.write = host.toList)
    (hAway : kind = .file → h ≠ .name "localhost") :
    ∃ other, Url.IsHost kind other ∧
      other.write = (promisedHost host).toList ∧
      (kind = .file → other ≠ .name "localhost") := by
  by_cases hFront : "www".toList <+: host.toList
  · rcases hFront with ⟨rest, hText⟩
    refine ⟨_, hHost.exchange isWord_www isWord_api (by decide)
      (hName.trans hText.symm), ?_, fun _ hLocal => ?_⟩
    · rw [promisedHost_of_front hText.symm]
      rfl
    · rw [Url.Host.name.injEq, toList_api] at hLocal
      have hLetters := congrArg String.toList hLocal
      rw [String.toList_ofList] at hLetters
      have hFirst : some 'a' = "localhost".toList.head? :=
        congrArg List.head? hLetters
      exact absurd hFirst (by decide)
  · exact ⟨h, hHost, by rw [promisedHost_of_other hFront, hName], hAway⟩

/- A URL of the data at a host, and of nothing else. -/
structure IsOfferAt (scheme host : String) (url : Url) : Prop where
  scheme_eq : url.scheme = scheme
  host_eq : url.host? = some host
  path_eq : url.path = path.toList
  noEnd : url.query = none ∧ url.fragment = none

/- The address of the data at the promised host is that of a URL. -/
theorem parse_promised
    (hParse : Url.parse address = .ok url)
    (hHost : url.host? = some host) :
    ∃ offer,
      Url.parse (url.scheme ++ "://" ++ promisedHost host ++ path) =
        .ok offer ∧
      IsOfferAt url.scheme (promisedHost host) offer := by
  rcases exists_host_of_parse hParse hHost with
    ⟨h, _, hSound, hKnown, hName, hAway⟩
  rcases exists_promised_host hKnown hName hAway with
    ⟨other, hOther, hWrite, hElsewhere⟩
  have hText :
      url.scheme ++ "://" ++ promisedHost host ++ path =
        (Url.onHost url.scheme other path.toList).text := by
    apply String.toList_injective
    rw [Url.toList_text_onHost, hWrite]
    simp
  refine ⟨Url.onHost url.scheme other path.toList, ?_, rfl, ?_, rfl, rfl, rfl⟩
  · rw [hText]
    exact Url.parse_onHost hSound.front.isScheme hOther hElsewhere
      (isFixedPath_path _)
  · rw [← String.ofList_toList (s := promisedHost host), ← hWrite]
    rfl

------------------------------------------------------------
-- Segments
------------------------------------------------------------

/- What stands behind the last slash of a path is its last segment. -/
theorem segment?_eq_some
    (hRooted : Url.IsRooted url.path)
    (hPath : url.path = front ++ '/' :: segment)
    (hLast : '/' ∉ segment)
    (hSome : segment ≠ []) :
    segment? url = some (String.ofList segment) := by
  have hAlone : Text.cutAt (· == '/') segment = [segment] :=
    Text.cutAt_eq_singleton (Url.ne_slash_of_not_mem hLast)
  have hSegments : url.segments?.bind (·.getLast?) = some segment := by
    cases front with
    | nil =>
        rw [Url.segments?, hPath]
        show (Text.cutAt (· == '/') segment).getLast? = some segment
        rw [hAlone]
        rfl
    | cons c front =>
        have hSlash : c = '/' := by
          rw [Url.IsRooted, hPath] at hRooted
          exact Option.some.inj hRooted
        rw [Url.segments?, hPath, hSlash]
        show (Text.cutAt (· == '/') (front ++ '/' :: segment)).getLast? =
          some segment
        rw [Text.cutAt_append rfl, hAlone, List.getLast?_concat]
  have hFull : segment.isEmpty = false := by
    simpa using hSome
  rw [segment?, hSegments, Option.bind_some, hFull,
    if_neg Bool.false_ne_true]

/- The value of a form is decoded to the text that it was made of. -/
theorem decode_encodeForm
    (hPlain : Url.IsPath segment) :
    Utf8.decode? (Url.decode (Url.encodeForm (String.ofList segment)).toList) =
      some segment := by
  rw [Url.encodeForm, String.toList_ofList, String.toList_ofList,
    Url.decode_encode (by decide)]
  apply Utf8.decode?_encode_of_isPlain
  intro c hc
  have hChar := hPlain c hc
  rw [Url.isPathChar, Bool.and_eq_true, Bool.not_eq_true'] at hChar
  exact Url.isPlain_of_isControl hChar.1

------------------------------------------------------------
-- Endpoints
------------------------------------------------------------

/-
  A page with a host and a last segment has an endpoint.  It keeps
  the scheme, its form holds the segment, and it is at the promised
  host exactly if `www` stands in front of the host or nowhere in
  it.  A `www` further inside is replaced, too.
-/
theorem ofAddress_endpoint
    (hParse : Url.parse address = .ok url)
    (hHost : url.host? = some host)
    (hPath : url.path = front ++ '/' :: segment)
    (hLast : '/' ∉ segment)
    (hSome : segment ≠ []) :
    ∃ server form,
      ofAddress address =
        .ok ⟨url.scheme ++ "://" ++ server ++ path, "subdom=" ++ form⟩ ∧
      Utf8.decode? (Url.decode form.toList) = some segment ∧
      (server = promisedHost host ↔
        "www".toList <+: host.toList ∨ ¬ "www".toList <:+: host.toList) ∧
      (server = promisedHost host →
        ∃ offer,
          Url.parse (url.scheme ++ "://" ++ server ++ path) = .ok offer ∧
          IsOfferAt url.scheme server offer) ∧
      ∀ before after, StandsFirst "www".toList before →
        host.toList = before ++ ("www".toList ++ after) →
        server = String.ofList (before ++ ("api".toList ++ after)) := by
  rcases exists_host_of_parse hParse hHost with ⟨h, hServed, hSound, _⟩
  have hRooted : Url.IsRooted url.path := by
    apply (hSound.front.served hServed).resolve_left
    rw [hPath]
    simp
  have hSegment : Url.IsPath segment := by
    apply hSound.front.isPath.mono
    rw [hPath]
    intro c hc
    exact List.mem_append_right front (List.mem_cons_of_mem '/' hc)
  refine ⟨hostOf host, Url.encodeForm (String.ofList segment), ?_,
    decode_encodeForm hSegment, hostOf_eq_promisedHost_iff, ?_, ?_⟩
  · rw [ofAddress, hParse]
    dsimp only
    rw [hHost, segment?_eq_some hRooted hPath hLast hSome]
  · intro hPromised
    rw [hPromised]
    exact parse_promised hParse hHost
  · exact fun before after hFirst hText => hostOf_of_standsFirst hText hFirst

/- The page of a product, by the labels of the host. -/
def pageAt (labels : List (List Char)) : Url :=
  Url.onHost "https" (.name (String.ofList (Text.joinWith ['.'] labels)))
    "/p/1".toList

/- Its address is read if the labels are made of small letters. -/
theorem parse_pageAt
    {labels : List (List Char)}
    (hText : address = (pageAt labels).text)
    (hSmall : labels.all (·.all fun c => decide (Domain.IsSmall c)) = true)
    (hNumber : Url.Address4.endsInNumber (Text.joinWith ['.'] labels) = false)
    (hName : Text.joinWith ['.'] labels ≠ []) :
    Url.parse address = .ok (pageAt labels) := by
  have hScheme : Url.IsScheme "https" :=
    ⟨⟨'h', ['t', 't', 'p', 's'], by decide⟩, List.all_eq_true.mp (by decide),
      by decide +kernel⟩
  have hSome : labels ≠ [] := by
    rintro rfl
    exact hName rfl
  have hLetters : ∀ label ∈ labels, ∀ c ∈ label, Domain.IsSmall c := by
    intro label hLabel c hc
    have hAll := List.all_eq_true.mp hSmall label hLabel
    exact of_decide_eq_true (List.all_eq_true.mp hAll c hc)
  rw [hText]
  exact Url.parse_onHost hScheme
    (.domain rfl (Domain.toPlain?_of_isSmall hSome hLetters) hName hNumber)
    (fun hFile => absurd hFile (by decide)) (by decide +kernel)

/- A product of a shop whose host starts with `www`. -/
theorem ofAddress_endpoint_sample :
    Url.parse "https://www.shop.example/p/1" =
        .ok (pageAt ["www".toList, "shop".toList, "example".toList]) ∧
      ∃ server form,
        ofAddress "https://www.shop.example/p/1" =
          .ok ⟨"https" ++ "://" ++ server ++ path, "subdom=" ++ form⟩ ∧
        Utf8.decode? (Url.decode form.toList) = some ['1'] ∧
        server = "api.shop.example" := by
  have hParse :
      Url.parse "https://www.shop.example/p/1" =
        .ok (pageAt ["www".toList, "shop".toList, "example".toList]) :=
    parse_pageAt (by decide +kernel) (by decide) (by decide) (by decide)
  have hHost :
      (pageAt ["www".toList, "shop".toList, "example".toList]).host? =
        some "www.shop.example" := by
    decide +kernel
  have hPath :
      (pageAt ["www".toList, "shop".toList, "example".toList]).path =
        ['/', 'p'] ++ '/' :: ['1'] := by
    decide
  rcases ofAddress_endpoint hParse hHost hPath (by decide) (by decide) with
    ⟨server, form, hPage, hForm, hServer, _⟩
  refine ⟨hParse, server, form, hPage, hForm, ?_⟩
  rw [hServer.mpr (.inl (by decide))]
  decide +kernel

/- A `www` inside the name of a host is replaced, too. -/
theorem inner_www_is_replaced :
    Url.parse "https://shop.www.example/p/1" =
        .ok (pageAt ["shop".toList, "www".toList, "example".toList]) ∧
      ¬ "www".toList <+: "shop.www.example".toList ∧
      promisedHost "shop.www.example" = "shop.www.example" ∧
      ofAddress "https://shop.www.example/p/1" =
        .ok ⟨"https://shop.api.example/product/product/index", "subdom=1"⟩ := by
  have hParse :
      Url.parse "https://shop.www.example/p/1" =
        .ok (pageAt ["shop".toList, "www".toList, "example".toList]) :=
    parse_pageAt (by decide +kernel) (by decide) (by decide) (by decide)
  have hOther : ¬ "www".toList <+: "shop.www.example".toList := by decide
  refine ⟨hParse, hOther, promisedHost_of_other hOther, ?_⟩
  rw [ofAddress, hParse]
  decide +kernel

end Endpoint

end Web

end Gleaner
