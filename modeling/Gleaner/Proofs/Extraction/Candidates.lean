import Gleaner.Extraction.Description
import Gleaner.Extraction.Fields
import Gleaner.Extraction.Rows
import Gleaner.Proofs.Template.Merging
import Gleaner.Tree.Data

/-
  The fields of a product are read with the first candidate that
  yields a value.  With the candidates of several rows of a table
  that is the value of the first row that has one.

  Main declarations:
    * `firstUseful_flatMap`
    * `firstUseful_filterMap`
    * `Template.Field.read`
    * `Template.Field.not_isBlank_of_readFound`
    * `Template.Field.read_merged`
-/

namespace Gleaner

------------------------------------------------------------
-- Values That Hold Something
------------------------------------------------------------

/- The lists that are kept are those with an item. -/
theorem nonEmpty_eq_some_iff
    {α : Type}
    {items v : List α} :
    nonEmpty items = some v ↔ v ≠ [] ∧ items = v := by
  unfold nonEmpty
  constructor
  · intro hSome
    split at hSome
    · cases hSome
    · rename_i hItems
      cases hSome
      rw [List.isEmpty_iff] at hItems
      exact ⟨hItems, rfl⟩
  · rintro ⟨hItems, rfl⟩
    rw [if_neg]
    rwa [List.isEmpty_iff]

/- Lists are kept or dropped alike exactly if they are the same. -/
theorem nonEmpty_inj
    {α : Type}
    {xs ys : List α} :
    nonEmpty xs = nonEmpty ys ↔ xs = ys := by
  refine ⟨?_, congrArg nonEmpty⟩
  intro hSame
  cases xs with
  | nil =>
      cases ys with
      | nil => rfl
      | cons y ys => cases hSame
  | cons x xs =>
      cases ys with
      | nil => cases hSame
      | cons y ys => exact Option.some.inj hSame

/- Texts that are not empty are not joined to an empty text. -/
theorem Text.intercalate_ne_empty
    {sep : String}
    {texts : List String}
    (hSome : texts ≠ [])
    (hTexts : ∀ text ∈ texts, text ≠ "") :
    String.intercalate sep texts ≠ "" := by
  cases texts with
  | nil => exact absurd rfl hSome
  | cons text texts =>
      rw [List.forall_mem_cons] at hTexts
      cases texts with
      | nil =>
          rw [String.intercalate_singleton]
          exact hTexts.1
      | cons next texts =>
          rw [String.intercalate_cons_cons]
          intro hEmpty
          rw [String.append_eq_empty_iff, String.append_eq_empty_iff]
            at hEmpty
          exact hTexts.1 hEmpty.1.1

------------------------------------------------------------
-- Lists of Candidates
------------------------------------------------------------

section Candidates

variable {N T : Type}
variable [Cursor N]
variable (root : N) (read : List (Match N) → Option T)

/- What is not found by some candidates is left to those behind. -/
theorem firstUseful_append (candidates more : List Selector) :
    firstUseful root read (candidates ++ more) =
      (firstUseful root read candidates).or
        (firstUseful root read more) := by
  rw [firstUseful, List.findSome?_append]
  rfl

/- Candidates are tried one by one. -/
theorem firstUseful_cons (s : Selector) (more : List Selector) :
    firstUseful root read (s :: more) =
      (firstUseful root read [s]).or (firstUseful root read more) :=
  firstUseful_append root read [s] more

/- Groups of candidates are tried one by one. -/
theorem firstUseful_flatMap
    {α : Type}
    (items : List α)
    (candidates : α → List Selector) :
    firstUseful root read (items.flatMap candidates) =
      items.findSome? fun a => firstUseful root read (candidates a) := by
  induction items with
  | nil => rfl
  | cons a items ih =>
      rw [List.flatMap_cons, firstUseful_append, ih, List.findSome?_cons]
      cases firstUseful root read (candidates a) <;> rfl

/- Items that are no candidates are passed over. -/
theorem firstUseful_filterMap
    {α : Type}
    (items : List α)
    (candidate? : α → Option Selector) :
    firstUseful root read (items.filterMap candidate?) =
      items.findSome? fun a =>
        (candidate? a).bind fun s => firstUseful root read [s] := by
  rw [List.filterMap_eq_flatMap_toList, firstUseful_flatMap]
  congr 1
  funext a
  cases candidate? a <;> rfl

/- Candidates that yield nothing are passed over. -/
theorem firstUseful_eq_none
    {candidates : List Selector}
    (hNone : ∀ s ∈ candidates, firstUseful root read [s] = none) :
    firstUseful root read candidates = none := by
  induction candidates with
  | nil => rfl
  | cons s candidates ih =>
      rw [List.forall_mem_cons] at hNone
      rw [firstUseful_cons, hNone.1, ih hNone.2]
      rfl

/-
  The first candidate that yields a value decides, whatever is
  behind it.
-/
theorem firstUseful_of_forall
    {before after : List Selector}
    {s : Selector}
    (hBefore : ∀ b ∈ before, firstUseful root read [b] = none)
    (hSome : firstUseful root read [s] ≠ none) :
    firstUseful root read (before ++ s :: after) =
      firstUseful root read [s] := by
  rw [firstUseful_append, firstUseful_eq_none root read hBefore,
    Option.none_or, firstUseful_cons]
  cases hValue : firstUseful root read [s] with
  | none => exact absurd hValue hSome
  | some v => rfl

/-
  A value is the reading of what some candidate found, and no
  candidate before that one yields a value.
-/
theorem exists_candidate_of_firstUseful
    {candidates : List Selector}
    {v : T}
    (hValue : firstUseful root read candidates = some v) :
    ∃ before s after, candidates = before ++ s :: after ∧
      (∀ b ∈ before, firstUseful root read [b] = none) ∧
      read (s.resolve root) = some v := by
  unfold firstUseful at hValue ⊢
  rcases List.findSome?_eq_some_iff.mp hValue with
    ⟨before, s, after, hOrder, hHere, hBefore⟩
  refine ⟨before, s, after, hOrder, ?_, ?_⟩
  · intro b hb
    rw [List.findSome?_singleton]
    exact hBefore b hb
  · split at hHere
    · cases hHere
    · exact hHere

/- A value is the reading of what some candidate found. -/
theorem exists_read_of_firstUseful
    {candidates : List Selector}
    {v : T}
    (hValue : firstUseful root read candidates = some v) :
    ∃ found, read found = some v := by
  rcases exists_candidate_of_firstUseful root read hValue with
    ⟨_, s, _, _, _, hRead⟩
  exact ⟨s.resolve root, hRead⟩

end Candidates

------------------------------------------------------------
-- Fields
------------------------------------------------------------

namespace Template

namespace Field

open Extract

/- What a field holds. -/
def Value : Field → Type
  | .cover | .price => List String
  | .title => String
  | .description => List Passage
  | .specification => List Trait
  | .goods => List Offer

/- The value holds nothing. -/
def IsBlank : (f : Field) → f.Value → Prop
  | .cover, v | .price, v => v = []
  | .title, v => v = ""
  | .description, v => v = []
  | .specification, v => v = []
  | .goods, v => v = []

section Reading

variable {N : Type}
variable [Cursor N]
variable (root : N) (page : Page)

/- Read a field with some candidates. -/
def read (candidates : List Selector) : (f : Field) → Option f.Value
  | .cover => Extract.cover root page candidates
  | .title => Extract.title root candidates
  | .price => Extract.price root candidates
  | .description => Extract.description root page candidates
  | .specification => Extract.specification root page candidates
  | .goods => Extract.goods root page candidates

/- Read what one candidate has found. -/
def readFound : (f : Field) → List (Match N) → Option f.Value
  | .cover, found => nonEmpty (found.flatMap (coverOf page))
  | .title, found => titleOf found
  | .price, found => nonEmpty (found.flatMap priceOf)
  | .description, found => nonEmpty (found.flatMap (passagesOf page))
  | .specification, found => nonEmpty (found.flatMap (traits page))
  | .goods, found => nonEmpty (found.flatMap (offers page))

/- Every field is read with the first candidate of use. -/
theorem read_eq_firstUseful (candidates : List Selector) (f : Field) :
    f.read root page candidates =
      firstUseful root (f.readFound page) candidates := by
  cases f <;> rfl

end Reading

/- What a candidate is read as is never blank. -/
theorem not_isBlank_of_readFound
    {N : Type}
    [Cursor N]
    {page : Page}
    {f : Field}
    {found : List (Match N)}
    {v : f.Value}
    (hValue : f.readFound page found = some v) :
    ¬f.IsBlank v := by
  cases f with
  | title =>
      rcases Option.map_eq_some_iff.mp hValue with ⟨titles, hTitles, rfl⟩
      rcases nonEmpty_eq_some_iff.mp hTitles with ⟨hSome, rfl⟩
      apply Text.intercalate_ne_empty hSome
      intro text hText
      have hKept := (List.mem_filter.mp hText).2
      rw [Bool.not_eq_true', String.isEmpty_eq_false_iff] at hKept
      exact hKept
  | cover | price | description | specification | goods =>
      exact (nonEmpty_eq_some_iff.mp hValue).1

------------------------------------------------------------
-- Rows of One Domain
------------------------------------------------------------

section Rows

variable {N : Type}
variable [Cursor N]
variable (root : N) (page : Page)

/- What a piece of a column yields on its own, if it can be read. -/
def readPiece (f : Field) (piece : String) : Option f.Value :=
  (Selector.parse piece).toOption.bind fun s => f.read root page [s]

/- Candidates in columns are tried piece by piece. -/
theorem read_flatMap_listed (f : Field) (columns : List String) :
    f.read root page (columns.flatMap listed) =
      (columns.flatMap pieces).findSome?
        (f.readPiece root page) := by
  have hPieces :
      columns.flatMap listed =
        (columns.flatMap pieces).filterMap fun piece =>
          (Selector.parse piece).toOption := by
    rw [List.filterMap_flatMap]
    rfl
  rw [hPieces, read_eq_firstUseful, firstUseful_filterMap]
  congr 1
  funext piece
  rw [readPiece]
  congr 1
  funext s
  rw [read_eq_firstUseful]

/-
  A field is read with the candidates of all rows of a domain as
  with those of the first row that yields a value, and there is
  none if no row does.  The value is not blank.  It is that of
  the first piece of a column that can be read and yields one.
  Neither the candidates before it, which yield nothing, nor
  those behind it change it.
-/
theorem read_merged
    (rows : List (Nat × List String))
    (hash : String)
    (t : Template)
    (hFound :
      (Registry.empty.insertRows rows).ofHash? hash = some t)
    (f : Field) :
    let own :=
      (Registry.usable rows).filter (Registry.hashOf · = hash)
    let columns := own.map (column · f.number)
    f.read root page (t.candidates f) =
      columns.findSome? (fun text =>
        f.read root page (listed text)) ∧
    (∀ v, f.read root page (t.candidates f) = some v → ¬f.IsBlank v) ∧
    (∀ v, f.read root page (t.candidates f) = some v ↔
      ∃ before piece after,
        columns.flatMap pieces = before ++ piece :: after ∧
        f.readPiece root page piece = some v ∧
        ∀ b ∈ before, f.readPiece root page b = none) ∧
    ∀ (before after : List Selector) s,
      (∀ b ∈ before, f.read root page [b] = none) →
      f.read root page [s] ≠ none →
      f.read root page (before ++ s :: after) =
        f.read root page [s] := by
  intro own columns
  have hMerged := (Registry.isHolding_insertRows rows).merged hash t hFound
  have hCandidates :
      t.candidates f = columns.flatMap listed := by
    rw [hMerged.candidates, List.flatMap_map]
  rw [hCandidates]
  refine ⟨?_, ?_, ?_, ?_⟩
  · simp only [read_eq_firstUseful, firstUseful_flatMap]
  · intro v hValue
    rw [read_eq_firstUseful] at hValue
    rcases exists_read_of_firstUseful _ _ hValue with ⟨found, hRead⟩
    exact not_isBlank_of_readFound hRead
  · intro v
    rw [read_flatMap_listed, List.findSome?_eq_some_iff]
  · intro before after s hBefore hSome
    simp only [read_eq_firstUseful] at hBefore hSome ⊢
    exact firstUseful_of_forall _ _ hBefore hSome

end Rows

/- Two rows of a shop, and between them one that is no template. -/
def shopRows : List (Nat × List String) :=
  [(1, ["a.example", "json", "", "", "x+\x7b+y", "", "", "x+m", "",
      "", ""]),
    (2, ["a.example", "text", "", "", "c", "", "", "c", "", "", ""]),
    (3, [" a.example", "web", "", "", "b+c", "", "", "\x7b+g", "", "",
      ""])]

/- A page of the shop. -/
def shopPage : Page :=
  ⟨"http://a.example/", ⟨"http",
    some ⟨"", some (.name "a.example"), none⟩, ['/'], none, none⟩,
    "a.example"⟩

/-
  A product of the shop: the title is found under `b` and `c`, an
  offer under `g`, and a mark without a text under `m`.
-/
def shopData : Json :=
  .object [("b", .text " B "), ("c", .text "C"), ("x", .text " "),
    ("m", .text "<b> </b>"), ("g", .text "USD 12")]

/- The columns of the two rows are those with a number. -/
theorem columns_shopRows :
    let own := (Registry.usable shopRows).filter
      (Registry.hashOf · = domainHash "a.example")
    own.map (column · 5) = ["x+\x7b+y", "b+c"] ∧
      own.map (column · 8) = ["x+m", "\x7b+g"] := by
  decide +kernel

/- There is a template for the shop. -/
theorem exists_template_shopRows :
    ∃ t, (Registry.empty.insertRows shopRows).ofHash?
      (domainHash "a.example") = some t := by
  rw [← Option.isSome_iff_exists, Option.isSome_iff_ne_none]
  intro hNone
  have hAbsent :=
    ((Registry.isHolding_insertRows shopRows).absent _).mp hNone
  have hColumns := columns_shopRows.1
  rw [List.map_eq_cons_iff] at hColumns
  rcases hColumns with ⟨row, _, hRows, _⟩
  have hRow := List.mem_filter.mp (hRows ▸ List.mem_cons_self)
  exact absurd (of_decide_eq_true hRow.2) (hAbsent row hRow.1)

/-
  The title comes from the first piece of the last row.  So does
  the offer: what the first row finds has no text to show.
-/
theorem read_merged_sample :
    ∃ t, (Registry.empty.insertRows shopRows).ofHash?
        (domainHash "a.example") = some t ∧
      Field.title.read (Json.Place.root shopData) shopPage
        (t.candidates .title) = some "B" ∧
      (Json.Place.root shopData).below "m" ≠ [] ∧
      Field.goods.read (Json.Place.root shopData) shopPage
          (t.candidates .goods) =
        some [⟨shopPage.domain, "12", "USD 12", ""⟩] := by
  rcases exists_template_shopRows with ⟨t, hFound⟩
  rcases columns_shopRows with ⟨hTitles, hGoods⟩
  have hRead := fun f =>
    (read_merged (Json.Place.root shopData) shopPage shopRows
      (domainHash "a.example") t hFound f).1
  refine ⟨t, hFound, (hRead .title).trans ?_, by decide +kernel,
    (hRead .goods).trans ?_⟩
  · rw [Field.number, hTitles]
    change ["x+\x7b+y", "b+c"].findSome? (fun text =>
      Extract.title (Json.Place.root shopData) (listed text)) = some "B"
    decide +kernel
  · rw [Field.number, hGoods]
    change ["x+m", "\x7b+g"].findSome? (fun text =>
      Extract.goods (Json.Place.root shopData) shopPage (listed text)) =
        some [⟨shopPage.domain, "12", "USD 12", ""⟩]
    decide +kernel

end Field

end Template

end Gleaner
