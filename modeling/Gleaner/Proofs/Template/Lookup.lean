import Gleaner.Proofs.Product.MediaUrl
import Gleaner.Proofs.Template.Merging
import Gleaner.Proofs.Url.Served
import Mathlib.Data.Bool.AllAny

/-
  The template of a page is found by the host of the page, while
  templates are kept under their domains as these were spelled.

  Main declarations:
    * `Url.exists_parse_host`
    * `Registry.domainHash_of_ofHash?`
    * `Registry.found_by_host_iff`
-/

namespace Gleaner

/- A page is on the host that is read from its address. -/
theorem Page.ofAddress_of_parse
    {address host : String}
    {url : Url}
    (hTrimmed : Text.strip address = address)
    (hParse : Url.parse address = .ok url)
    (hHost : url.host? = some host) :
    Page.ofAddress address = .ok ⟨address, url, host⟩ := by
  unfold Page.ofAddress
  simp only [hTrimmed, hParse, hHost]

------------------------------------------------------------
-- Hosts as Domains
------------------------------------------------------------

namespace Url

variable {u : Url}
variable {host : String}

theorem isScheme_http : IsScheme "http" := by
  refine ⟨⟨'h', ['t', 't', 'p'], by decide⟩,
    List.all_eq_true.mp (by decide), ?_⟩
  apply String.toList_injective
  rw [toList_toLower]
  decide

/- The host of a page of the web, written as a host. -/
theorem isHost_of_parse_http
    {rest : String}
    (hParse : parse ("http:" ++ rest) = .ok u)
    (hHost : u.host? = some host) :
    ∃ h, IsHost .web h ∧ host = String.ofList h.write := by
  have hText :
      "http:" ++ rest =
        String.ofList ("http".toList ++ ':' :: rest.toList) := by
    apply String.toList_injective
    simp
  have hScheme : u.scheme = "http" := by
    rw [hText, isScheme_http.parse_append] at hParse
    exact scheme_of_readServer hParse
  have hSound : IsSound true u := isSound_of_parse nofun hParse
  rcases Option.map_eq_some_iff.mp hHost with ⟨h, hSome, rfl⟩
  rcases Option.bind_eq_some_iff.mp hSome with ⟨a, hServer, hMem⟩
  have hKnown := (hSound.front.isSound a hServer).host h hMem
  rw [hScheme] at hKnown
  exact ⟨h, hKnown, rfl⟩

/- A host of the web is the host of its own page. -/
theorem exists_parse_host
    {h : Host}
    (hHost : IsHost .web h) :
    ∃ v, parse ("http://" ++ String.ofList h.write ++ "/") = .ok v ∧
      v.host? = some (String.ofList h.write) := by
  have hText :
      "http://" ++ String.ofList h.write ++ "/" =
        String.ofList ("http".toList ++ ':' :: '/' :: '/' ::
          (Authority.server ⟨"", some h, none⟩ ++ ['/'])) := by
    apply String.toList_injective
    simp [Authority.server, Authority.seat]
  have hSound : Authority.IsSound "http" ⟨"", some h, none⟩ := by
    refine ⟨by simp, ?_, by simp, ?_⟩
    · rintro g ⟨⟩
      exact hHost
    · exact fun _ => ⟨rfl, rfl⟩
  have hEnd : EndsServer (.ofScheme "http") ['/'] := by
    rintro c ⟨⟩
    decide
  rcases exists_parse_server isScheme_http hSound (fun _ => rfl) hEnd with
    ⟨v, hParse, hSame⟩
  refine ⟨v, hText ▸ hParse, ?_⟩
  rw [host?, hSame (by decide)]
  rfl

end Url

------------------------------------------------------------
-- Templates of Pages
------------------------------------------------------------

namespace Registry

variable {rows : List (Nat × List String)}

/- What is found under a digest is a template of that digest. -/
theorem domainHash_of_ofHash?
    {hash : String}
    {t : Template}
    (hFound : (empty.insertRows rows).ofHash? hash = some t) :
    domainHash t.domain = hash := by
  have hDomain :=
    ((isHolding_insertRows rows).merged hash t hFound).domain
  rcases Option.map_eq_some_iff.mp hDomain with ⟨row, hRow, hText⟩
  rw [← hText]
  have hMem := List.mem_of_mem_head? hRow
  exact of_decide_eq_true (List.mem_filter.mp hMem).2

/- Every usable row takes part in a template. -/
theorem exists_get?_of_mem
    {row : List String}
    (hRow : row ∈ usable rows) :
    ∃ t, (empty.insertRows rows).get?
      (Text.strip (Template.column row 1)) = some t := by
  rw [← Option.ne_none_iff_exists']
  intro hNone
  exact ((isHolding_insertRows rows).absent _).mp hNone row hRow rfl

/-
  A page finds the template of a domain exactly if the digest of
  the domain as it was spelled is the digest of the host.  The
  host itself is such a spelling: it is the host of its page.
-/
theorem found_by_host_iff
    {row : List String}
    {page : Page}
    {u : Url}
    (hRow : row ∈ usable rows)
    (hUrl : Url.parse
      ("http://" ++ Text.strip (Template.column row 1) ++ "/") = .ok u)
    (hHost : u.host? = some page.host) :
    (∃ t,
      (empty.insertRows rows).get? (Text.strip (Template.column row 1)) =
        some t ∧
      ((empty.insertRows rows).ofHash? page.domain = some t ↔
        domainHash (Text.strip (Template.column row 1)) =
          domainHash page.host)) ∧
      ∃ v, Url.parse ("http://" ++ page.host ++ "/") = .ok v ∧
        v.host? = some page.host := by
  constructor
  · rcases exists_get?_of_mem hRow with ⟨t, hFound⟩
    refine ⟨t, hFound, ?_⟩
    constructor
    · intro hPageFound
      rw [← domainHash_of_ofHash? hFound,
        domainHash_of_ofHash? hPageFound]
      rfl
    · intro hSame
      rw [get?, hSame] at hFound
      exact hFound
  · have hText :
        "http://" ++ Text.strip (Template.column row 1) ++ "/" =
          "http:" ++
            ("//" ++ Text.strip (Template.column row 1) ++ "/") := by
      apply String.toList_injective
      simp
    rcases Url.isHost_of_parse_http (hText ▸ hUrl) hHost with
      ⟨h, hKnown, hWrite⟩
    rw [hWrite]
    exact Url.exists_parse_host hKnown

/- A row for a host in a spelling. -/
def sampleRow (domain : String) : List String :=
  [domain, "html", "", "", "", "", "", "", "", "", ""]

/- The page of a host, as it is read from its address. -/
def sampleUrl : Url :=
  { scheme := "http"
    authority := some ⟨"", some (.six [0, 0, 0, 0, 0, 0, 0, 1]), none⟩
    path := ['/']
    query := none
    fragment := none }

/- A domain that is spelled like the host is found. -/
theorem found_by_host_iff_sample :
    ∃ t, (empty.insertRows [(1, sampleRow "[::1]")]).ofHash?
      Page.sample.domain = some t := by
  have hRow :
      sampleRow "[::1]" ∈ usable [(1, sampleRow "[::1]")] := by
    decide +kernel
  have hUrl :
      Url.parse ("http://" ++
        Text.strip (Template.column (sampleRow "[::1]") 1) ++ "/") =
          .ok sampleUrl := by
    decide +kernel
  have hHost : sampleUrl.host? = some Page.sample.host := by
    decide +kernel
  have hSame :
      domainHash (Text.strip (Template.column (sampleRow "[::1]") 1)) =
        domainHash Page.sample.host := by
    decide +kernel
  rcases (found_by_host_iff hRow hUrl hHost).1 with ⟨t, _, hFound⟩
  exact ⟨t, hFound.mpr hSame⟩

/- A page on a host, which is written in small letters. -/
def shopUrl (scheme path : String) : Url :=
  Url.onHost scheme (.name "shop.example") path.toList

/- A product of the shop, as its page is read from the address. -/
def shopProduct : Page :=
  ⟨"https://shop.example/p/1", shopUrl "https" "/p/1", "shop.example"⟩

/- The name of the host is one of small letters. -/
theorem toPlain?_shop :
    Domain.toPlain? "shop.example".toList =
      some "shop.example".toList := by
  have hSmall :
      ∀ label ∈ ["shop".toList, "example".toList],
        ∀ c ∈ label, Domain.IsSmall c := by
    simp only [← List.all_iff_forall_prop]
    decide
  have hName :
      "shop.example".toList =
        Text.joinWith ['.'] ["shop".toList, "example".toList] := by
    decide
  rw [hName]
  exact Domain.toPlain?_of_isSmall (List.cons_ne_nil _ _) hSmall

/- The product is on the host of the shop. -/
theorem parse_product :
    Url.parse "https://shop.example/p/1" =
      .ok (shopUrl "https" "/p/1") := by
  have hScheme : Url.IsScheme "https" :=
    ⟨⟨'h', ['t', 't', 'p', 's'], by decide⟩,
      List.all_eq_true.mp (by decide), by decide +kernel⟩
  have hHost :
      Url.IsHost (.ofScheme "https") (.name "shop.example") :=
    .domain rfl toPlain?_shop (by decide) (by decide +kernel)
  have hText :
      "https://shop.example/p/1" = (shopUrl "https" "/p/1").text := by
    decide +kernel
  rw [hText]
  exact Url.parse_onHost hScheme hHost
    (fun hFile => absurd hFile (by decide)) (by decide +kernel)

/- Capitals in the name of the host are read as small letters. -/
theorem readDomain_capitals :
    Url.readDomain "Shop.Example".toList =
      .ok (.name "shop.example") := by
  have hBytes :
      Utf8.decode? (Url.decode "Shop.Example".toList) =
        some "Shop.Example".toList := by
    decide +kernel
  have hLetters :
      ∀ c ∈ "Shop.Example".toList,
        Text.isLetter c = true ∨ c = '.' :=
    List.all_iff_forall_prop.mp (by decide)
  have hPlain :
      Domain.toPlain? "Shop.Example".toList =
        some "shop.example".toList := by
    rw [Domain.toPlain?_map_toLower hLetters]
    exact toPlain?_shop
  have hNumber :
      Url.Address4.endsInNumber "shop.example".toList = false := by
    decide +kernel
  rw [Url.readDomain]
  · rw [hBytes, Option.bind_some, hPlain]
    change (if Url.Address4.endsInNumber "shop.example".toList then _
      else _) = _
    rw [hNumber]
    rfl
  · intro rest hBracket
    cases hBracket

/- Capitals in the name of a domain do not change its host. -/
theorem parse_capitals :
    Url.parse "http://Shop.Example/" = .ok (shopUrl "http" "/") := by
  have hClean :
      Url.parse "http://Shop.Example/" =
        Url.readServer "http" "Shop.Example/".toList := by
    have hAfter := Url.isScheme_http.parse_append "//Shop.Example/".toList
    exact hAfter
  have hUser :
      Url.userText? (.ofScheme "http") "Shop.Example/".toList =
        none := by
    decide +kernel
  have hSplit :
      Url.splitHost (.ofScheme "http") false "Shop.Example/".toList =
        ("Shop.Example".toList, ['/']) := by
    decide +kernel
  have hSpecial : (Url.Kind.ofScheme "http").isSpecial = true := by
    decide
  have hHost :
      Url.readHost (.ofScheme "http") "Shop.Example".toList =
        .ok (some (.name "shop.example")) := by
    rw [Url.readHost, if_neg (by decide), if_pos hSpecial,
      readDomain_capitals]
    rfl
  rw [hClean, Url.readServer, Url.takeAuthority]
  simp only [hUser, Option.elim_none, List.drop_zero, hSplit, hHost]
  rfl

/- The page of the product is that of its address. -/
theorem ofAddress_product :
    Page.ofAddress "https://shop.example/p/1" = .ok shopProduct :=
  Page.ofAddress_of_parse (by decide) parse_product (by decide)

/-
  The product has the host of the domain as it was spelled, but
  in small letters, and does not find the template.
-/
theorem other_spelling_is_not_found :
    sampleRow "Shop.Example" ∈ usable [(1, sampleRow "Shop.Example")] ∧
      Url.parse "http://Shop.Example/" = .ok (shopUrl "http" "/") ∧
      Page.ofAddress "https://shop.example/p/1" = .ok shopProduct ∧
      (shopUrl "http" "/").host? = some shopProduct.host ∧
      (empty.insertRows [(1, sampleRow "Shop.Example")]).ofHash?
        shopProduct.domain = none ∧
      ((empty.insertRows [(1, sampleRow "Shop.Example")]).get?
        "Shop.Example").isSome = true :=
  ⟨by decide +kernel, parse_capitals, ofAddress_product,
    by decide +kernel, by decide +kernel, by decide +kernel⟩

end Registry

end Gleaner
