import Gleaner.Harvest.Folders
import Gleaner.Harvest.Task

/-
  What is read from a page: the record that comes out of it
  depends on the moment of reading in its date alone.  It may
  depend on the order in which attributes come, unless the page
  is steady.

  Main declarations:
    * `Record.dated`
    * `Harvest.Services.Alike`
    * `Harvest.Services.Steady`
    * `Harvest.Services.Agrees`
    * `Harvest.agrees_of_alike`
    * `Harvest.extract_eq_some_of_agrees`
    * `Harvest.pageUrl_of_extract`
    * `Harvest.valid_of_extract`
-/

namespace Gleaner

------------------------------------------------------------
-- Records of Another Date
------------------------------------------------------------

/- The record as if it was read at some other moment. -/
def Record.dated (r : Record) (m : Moment) : Record :=
  { r with extractedAt := m }

/- What is read from a page as if it was read at another moment. -/
def Extraction.dated (e : Extraction) (m : Moment) : Extraction :=
  ⟨e.record.dated m, e.valid⟩

namespace Harvest

variable {E : Type}

------------------------------------------------------------
-- Reading at Another Moment
------------------------------------------------------------

/-
  What is fetched is the same, and so is the system that files
  are kept by, whatever else is different.
-/
structure Services.Alike (s t : Services E) : Prop where
  templates : t.templates = s.templates
  page : t.page = s.page
  media : t.media = s.media
  system : t.system = s.system

/- Services are alike to themselves. -/
theorem Services.Alike.refl (s : Services E) : s.Alike s :=
  ⟨rfl, rfl, rfl, rfl⟩

/- A page is read the same in whatever order attributes come. -/
def Services.Steady (s : Services E) (address : String) : Prop :=
  ∀ a : Markup.Arrangement,
    extract { s with arrangement := a } address = extract s address

/-
  The pages at some addresses are read the same but for the date,
  and the same media are fetched and kept alike.
-/
structure Services.Agrees (Pages : String → Prop)
    (base s : Services E) : Prop where
  extract :
    ∀ a, Pages a →
      extract s a =
        (extract base a).map fun found => found.map (·.dated s.now)
  media : s.media = base.media
  system : s.system = base.system

/- The moment of reading shows in the date of a record alone. -/
theorem record_at
    (page : Page)
    (t : Template)
    (m n : Moment)
    (a : Markup.Arrangement)
    (content : Content) :
    Extract.record page t n a content =
      (Extract.record page t m a content).dated n := by
  cases content <;> rfl

/- Alike services read the same but for the date, in one order. -/
theorem extract_of_alike
    {base s : Services E}
    (hAlike : base.Alike s)
    (address : String) :
    extract s address =
      (extract { base with arrangement := s.arrangement } address).map
        fun found => found.map (·.dated s.now) := by
  unfold extract
  rw [hAlike.templates, hAlike.page]
  cases Page.ofAddress address with
  | error e => rfl
  | ok page =>
      dsimp only
      cases base.templates.ofHash? page.domain with
      | none => rfl
      | some t =>
          dsimp only
          cases base.page address t with
          | error e => rfl
          | ok fetched =>
              cases fetched with
              | none => rfl
              | some content =>
                  dsimp only
                  rw [record_at page t base.now s.now]
                  generalize Extract.record page t base.now
                    s.arrangement content = e
                  rcases e with ⟨r, valid⟩
                  cases valid with
                  | true => rfl
                  | false => rfl

/- Alike services agree on steady pages. -/
theorem agrees_of_alike
    {base s : Services E}
    {Pages : String → Prop}
    (hSteady : ∀ a, Pages a → base.Steady a)
    (hAlike : base.Alike s) :
    base.Agrees Pages s where
  extract := by
    intro a ha
    rw [extract_of_alike hAlike, hSteady a ha]
  media := hAlike.media
  system := hAlike.system

/- Services agree with themselves on all pages. -/
theorem Services.Agrees.refl
    (Pages : String → Prop)
    (s : Services E) :
    s.Agrees Pages s where
  extract := by
    intro a _
    have hSame := extract_of_alike (.refl s) a
    exact hSame
  media := rfl
  system := rfl

/- Services that agree read records that are alike but for the date. -/
theorem extract_eq_some_of_agrees
    {base s : Services E}
    {Pages : String → Prop}
    (hAgrees : base.Agrees Pages s)
    {address : String}
    (hPage : Pages address)
    {e : Extraction} :
    extract s address = .ok (some e) ↔
      ∃ f : Extraction,
        extract base address = .ok (some f) ∧ e = f.dated s.now := by
  rw [hAgrees.extract address hPage]
  cases extract base address with
  | error err => simp [Except.map]
  | ok found =>
      cases found with
      | none => simp [Except.map]
      | some f => simp [Except.map, eq_comm]

------------------------------------------------------------
-- What Records Are Read
------------------------------------------------------------

/- What is read comes from a page that can be fetched. -/
theorem extract_eq_some
    {s : Services E}
    {address : String}
    {e : Extraction}
    (hExtract : extract s address = .ok (some e)) :
    ∃ page t content,
      Page.ofAddress address = .ok page ∧
      s.templates.ofHash? page.domain = some t ∧
      s.page address t = .ok (some content) ∧
      e = Extract.record page t s.now s.arrangement content ∧
      e.valid = true := by
  unfold extract at hExtract
  split at hExtract
  · cases hExtract
  · rename_i page hPage
    split at hExtract
    · cases hExtract
    · rename_i t hTemplate
      split at hExtract
      · cases hExtract
      · cases hExtract
      · rename_i content hContent
        simp only [Except.ok.injEq] at hExtract
        split at hExtract
        · rename_i hValid
          have hSame := Option.some.inj hExtract
          subst hSame
          exact ⟨page, t, content, hPage, hTemplate, hContent, rfl,
            hValid⟩
        · cases hExtract

/- Only usable records are read from pages. -/
theorem valid_of_extract
    {s : Services E}
    {address : String}
    {e : Extraction}
    (hExtract : extract s address = .ok (some e)) :
    e.valid = true := by
  rcases extract_eq_some hExtract with ⟨_, _, _, _, _, _, _, hValid⟩
  exact hValid

/- A page keeps its address without the blanks around it. -/
theorem address_of_ofAddress
    {address : String}
    {page : Page}
    (hPage : Page.ofAddress address = .ok page) :
    page.address = Text.strip address := by
  unfold Page.ofAddress at hPage
  dsimp only at hPage
  split at hPage
  · cases hPage
  · split at hPage
    · cases hPage
    · rw [← Except.ok.inj hPage]

/- A record is that of the page at the address without blanks. -/
theorem pageUrl_of_extract
    {s : Services E}
    {address : String}
    {e : Extraction}
    (hExtract : extract s address = .ok (some e)) :
    e.record.pageUrl = Text.strip address := by
  rcases extract_eq_some hExtract with
    ⟨page, t, content, hPage, _, _, rfl, _⟩
  have hAddress := address_of_ofAddress hPage
  cases content <;> exact hAddress

------------------------------------------------------------
-- A Sample
------------------------------------------------------------

/- A shop whose pages are data. -/
def sampleTemplate : Template :=
  { Template.blank "[::1]" .json with
    cover := [⟨"c", [], ⟨["c"], none⟩⟩]
    description := [⟨"d", [], ⟨["d"], none⟩⟩] }

/- One page of it can be fetched, and its picture; no event arrives. -/
def sampleServices : Services Unit where
  templates := Registry.empty.insert sampleTemplate
  page address _ :=
    if address == "http://[::1]/1" then
      .ok (some (.data
        "\x7b\"c\":\"//[::1]/1.png\",\"d\":\"x\"\x7d".toUTF8.toList))
    else .error ()
  media url :=
    if url == "http://[::1]/1.png" then .ok [1] else .error ()
  publish _ := .error ()
  system := (Folders.ofDay ["media".toList] ⟨2024, 2, 29⟩ []).system
  now := ⟨⟨2024, 2, 29⟩, 12, 0, 0, 0⟩
  arrangement := .source

/- The addresses of a page, of one that fails, and of the first. -/
def sampleAddresses : List String :=
  ["http://[::1]/1", "http://[::1]/2", "http://[::1]/1"]

/- What is read from the page that can be fetched. -/
theorem extract_sample :
    ∃ e : Extraction,
      extract sampleServices "http://[::1]/1" = .ok (some e) ∧
        e.record.mediaFiles = [.ofUrl "http://[::1]/1.png"] := by
  have hRead :
      ((extract sampleServices "http://[::1]/1").toOption.getD
          none).map (·.record.mediaFiles) =
        some [.ofUrl "http://[::1]/1.png"] := by
    decide +kernel
  cases hExtract : extract sampleServices "http://[::1]/1" with
  | error err =>
      rw [hExtract] at hRead
      cases hRead
  | ok found =>
      rw [hExtract] at hRead
      rcases Option.map_eq_some_iff.mp hRead with ⟨e, hSome, hFiles⟩
      exact ⟨e, congrArg Except.ok hSome, hFiles⟩

end Harvest

end Gleaner
