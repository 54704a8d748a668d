import Gleaner.Template.Registry
import Mathlib.Data.Finset.Card
import Mathlib.Data.List.Induction

/-
  What a registry holds after rows were put in one by one.  Rows
  that are no template leave no trace, and the template of a
  domain is read off the rows of that domain, in their order.

  Main declarations:
    * `Template.IsUsable`
    * `Template.listed`
    * `Template.Field`
    * `Template.IsMerged`
    * `Template.ofRow_eq_ok_iff`
    * `Template.IsMerged.extend`
    * `Registry.insertRows`
    * `Registry.IsHolding`
    * `Registry.insertRows_merges`
-/

namespace Gleaner

------------------------------------------------------------
-- Kinds of Pages
------------------------------------------------------------

namespace PageKind

/- The names of the kinds of pages. -/
def names : List String :=
  ["html", "web", "json"]

/- The kind with a name is the one of that name. -/
theorem ofName_eq_ok_iff {name : String} {kind : PageKind} :
    ofName name = .ok kind ↔
      (Text.strip name).toLower = kind.name := by
  unfold ofName fold
  constructor
  · intro hKind
    split at hKind <;> cases hKind <;> assumption
  · intro hName
    rw [hName]
    cases kind <;> rfl

/- The names of the kinds are all there is to read a kind from. -/
theorem exists_ofName_iff {name : String} :
    (∃ kind, ofName name = .ok kind) ↔
      (Text.strip name).toLower ∈ names := by
  simp only [ofName_eq_ok_iff, names, List.mem_cons, List.not_mem_nil,
    or_false]
  constructor
  · rintro ⟨kind, hName⟩
    cases kind with
    | html => exact .inl hName
    | web => exact .inr (.inl hName)
    | json => exact .inr (.inr hName)
  · rintro (hName | hName | hName)
    · exact ⟨.html, hName⟩
    · exact ⟨.web, hName⟩
    · exact ⟨.json, hName⟩

end PageKind

------------------------------------------------------------
-- Columns
------------------------------------------------------------

/- Cutting is the splitting of lists at all items of a kind. -/
theorem Text.cutAt_eq_splitOnP
    (isCut : Char → Bool)
    (cs : List Char) :
    cutAt isCut cs = cs.splitOnP isCut := by
  induction cs with
  | nil => rfl
  | cons c cs ih =>
      rw [cutAt, List.splitOnP_cons_eq_if_modifyHead, ih]
      split
      · rfl
      · cases hPieces : cs.splitOnP isCut with
        | nil => exact absurd hPieces (List.splitOnP_ne_nil isCut cs)
        | cons piece pieces => rfl

namespace Template

/- The column of a row with a number, counted from one. -/
def column (fields : List String) (number : Nat) : String :=
  fields[number - 1]?.getD ""

/-
  The pieces of a column between its plus signs, without white
  space around them.  Blank pieces are left out.
-/
def pieces (text : String) : List String :=
  ((text.toList.splitOn '+').map fun piece =>
    Text.strip (String.ofList piece)).filter (· ≠ "")

/- The expressions that can be read among the pieces of a column. -/
def listed (text : String) : List Selector :=
  (pieces text).filterMap fun piece => (Selector.parse piece).toOption

/- Pieces are trimmed before or after they are made texts. -/
theorem pieces_eq_map (text : String) :
    pieces text =
      (((Text.cutAt (· == '+') text.toList).map Text.trim).filter
        (!·.isEmpty)).map String.ofList := by
  have hStrip : ∀ piece, Text.strip (String.ofList piece) =
      String.ofList (Text.trim piece) := by
    intro piece
    rw [Text.strip, String.toList_ofList]
  have hBlank : ∀ piece, decide (String.ofList piece ≠ "") =
      !piece.isEmpty := by
    intro piece
    cases piece <;> simp
  rw [pieces, List.splitOn, ← Text.cutAt_eq_splitOnP]
  simp only [hStrip]
  rw [← Function.comp_def String.ofList, ← List.map_map, List.filter_map]
  simp only [Function.comp_def, hBlank]

/- A column is read piece by piece. -/
theorem readList_eq_listed (text : String) :
    readList text = listed text := by
  rw [readList, listed, pieces_eq_map, List.filterMap_map]
  rfl

------------------------------------------------------------
-- Rows
------------------------------------------------------------

/-
  A row is a template: it has all columns, a domain, and the
  name of a kind of pages up to white space and case.
-/
def IsUsable (fields : List String) : Prop :=
  11 ≤ fields.length ∧
    Text.strip (column fields 1) ≠ "" ∧
    (Text.strip (column fields 2)).toLower ∈ PageKind.names

instance : DecidablePred IsUsable := by
  intro fields
  unfold IsUsable
  infer_instance

/- The fields that a template has candidates for. -/
inductive Field
  | cover
  | title
  | price
  | description
  | specification
  | goods
deriving DecidableEq, Repr

/- The number of the column that a field is found in. -/
def Field.number : Field → Nat
  | .cover => 4
  | .title => 5
  | .price => 6
  | .description => 7
  | .goods => 8
  | .specification => 9

/- The candidates that a template has for a field. -/
def candidates (t : Template) : Field → List Selector
  | .cover => t.cover
  | .title => t.title
  | .price => t.price
  | .description => t.description
  | .specification => t.specification
  | .goods => t.goods

/-
  What the rows of one domain amount to, in their order.  The
  domain is that of the first row, the kind of the pages and the
  way to the order page are those of the last row, and for every
  field the rows add their candidates.
-/
structure IsMerged (rows : List (List String)) (t : Template) : Prop where
  domain :
    rows.head?.map (fun row => Text.strip (column row 1)) = some t.domain
  kind :
    rows.getLast?.map (fun row => (Text.strip (column row 2)).toLower) =
      some t.kind.name
  order :
    rows.getLast?.map (fun row => listed (column row 3)) = some t.order
  candidates : ∀ f,
    t.candidates f = rows.flatMap fun row => listed (column row f.number)

variable {fields : List String}

/- The template that the columns of a row spell out. -/
def ofColumns (fields : List String) (kind : PageKind) : Template :=
  { domain := Text.strip (column fields 1)
    kind := kind
    order := listed (column fields 3)
    cover := listed (column fields 4)
    title := listed (column fields 5)
    price := listed (column fields 6)
    description := listed (column fields 7)
    goods := listed (column fields 8)
    specification := listed (column fields 9) }

/- A row that lacks a column is refused. -/
theorem ofRow_of_length_lt
    (hShort : fields.length < 11) :
    ofRow fields = .error (.short fields.length) := by
  unfold ofRow
  split
  · simp only [List.length_cons] at hShort
    omega
  · rfl

/- A row with all columns is read column by column. -/
theorem ofRow_of_le_length
    (hLong : 11 ≤ fields.length) :
    ofRow fields =
      if Text.strip (column fields 1) = "" then .error .noDomain
      else
        match PageKind.ofName (column fields 2) with
        | .error name => .error (.unknownKind name)
        | .ok kind => .ok (ofColumns fields kind) := by
  unfold ofRow
  split
  · rename_i domain kind _ _ _ _ _ _ _ _ _ _
    change _ = if Text.strip domain = "" then _ else
      match PageKind.ofName kind with
      | .error name => _
      | .ok kind => _
    simp only [readList_eq_listed, String.isEmpty_iff]
    split
    · rfl
    · cases PageKind.ofName kind with
      | error name => rfl
      | ok kind => rfl
  · rename_i hOther
    -- A row that is not cut into eleven columns and more is too short.
    iterate 11
      rcases fields with _ | ⟨_, fields⟩
      · simp at hLong
    exact (hOther _ _ _ _ _ _ _ _ _ _ _ _ rfl).elim

/- The rows that are read are the usable ones, by their columns. -/
theorem ofRow_eq_ok_iff {t : Template} :
    ofRow fields = .ok t ↔
      IsUsable fields ∧
        ∃ kind, PageKind.ofName (column fields 2) = .ok kind ∧
          t = ofColumns fields kind := by
  rcases Nat.lt_or_ge fields.length 11 with hShort | hLong
  · rw [ofRow_of_length_lt hShort]
    constructor
    · rintro ⟨⟩
    · rintro ⟨⟨hLong, _⟩, _⟩
      exact absurd hLong (Nat.not_le_of_lt hShort)
  · rw [ofRow_of_le_length hLong]
    constructor
    · intro hRead
      split at hRead
      · cases hRead
      · rename_i hDomain
        split at hRead
        · cases hRead
        · rename_i kind hKind
          cases hRead
          have hName := PageKind.exists_ofName_iff.mp ⟨kind, hKind⟩
          exact ⟨⟨hLong, hDomain, hName⟩, kind, hKind, rfl⟩
    · rintro ⟨⟨_, hDomain, _⟩, kind, hKind, rfl⟩
      rw [if_neg hDomain, hKind]

/- The usable rows are those that are read. -/
theorem exists_ofRow_iff :
    (∃ t, ofRow fields = .ok t) ↔ IsUsable fields := by
  constructor
  · rintro ⟨t, hRead⟩
    exact (ofRow_eq_ok_iff.mp hRead).1
  · intro hUsable
    rcases PageKind.exists_ofName_iff.mpr hUsable.2.2 with ⟨kind, hKind⟩
    exact ⟨_, ofRow_eq_ok_iff.mpr ⟨hUsable, kind, hKind, rfl⟩⟩

/- A row that is read amounts to its template. -/
theorem isMerged_of_ofRow
    {t : Template}
    (hRead : ofRow fields = .ok t) :
    IsMerged [fields] t := by
  rcases ofRow_eq_ok_iff.mp hRead with ⟨_, kind, hKind, rfl⟩
  constructor
  · rfl
  · exact congrArg some (PageKind.ofName_eq_ok_iff.mp hKind)
  · rfl
  · intro f
    rw [List.flatMap_singleton]
    cases f <;> rfl

/- An extended template has the candidates of both. -/
theorem candidates_extend (t more : Template) (f : Field) :
    (t.extend more).candidates f = t.candidates f ++ more.candidates f := by
  cases f <;> rfl

/- More rows of a domain extend its template. -/
theorem IsMerged.extend
    {rows more : List (List String)}
    {t u : Template}
    (hRows : IsMerged rows t)
    (hMore : IsMerged more u) :
    IsMerged (rows ++ more) (t.extend u) where
  domain := by
    rw [List.head?_append, Option.map_or, hRows.domain]
    rfl
  kind := by
    rw [List.getLast?_append, Option.map_or, hMore.kind]
    rfl
  order := by
    rw [List.getLast?_append, Option.map_or, hMore.order]
    rfl
  candidates := by
    intro f
    rw [candidates_extend, List.flatMap_append, hRows.candidates,
      hMore.candidates]

end Template

------------------------------------------------------------
-- Putting In a Template
------------------------------------------------------------

namespace Registry

section Entries

variable (hash : String) (t : Template)
variable (entries : List (String × Template))

/- Under its digest a template is put in, or extends the old one. -/
theorem lookup_insertAt_self :
    (insertAt hash t entries).lookup hash =
      some (match entries.lookup hash with
        | none => t
        | some old => old.extend t) := by
  induction entries with
  | nil => simp [insertAt]
  | cons entry rest ih =>
      rcases entry with ⟨h, old⟩
      rw [insertAt]
      split
      · rename_i hSame
        cases beq_iff_eq.mp hSame
        simp
      · rename_i hOther
        have hTest : (hash == h) = false := by
          rw [beq_eq_false_iff_ne]
          rintro rfl
          exact hOther (beq_self_eq_true hash)
        simp only [List.lookup_cons, hTest, ih]

/- Under any other digest nothing changes. -/
theorem lookup_insertAt_of_ne
    {other : String}
    (hOther : other ≠ hash) :
    (insertAt hash t entries).lookup other = entries.lookup other := by
  induction entries with
  | nil => simp [insertAt, List.lookup_cons, beq_eq_false_iff_ne.mpr hOther]
  | cons entry rest ih =>
      rcases entry with ⟨h, old⟩
      rw [insertAt]
      split
      · rename_i hSame
        cases beq_iff_eq.mp hSame
        simp only [List.lookup_cons, beq_eq_false_iff_ne.mpr hOther]
      · simp only [List.lookup_cons, ih]

/- No digest is added that is neither there nor the new one. -/
theorem mem_map_fst_insertAt
    {other : String}
    (hMem : other ∈ (insertAt hash t entries).map Prod.fst) :
    other = hash ∨ other ∈ entries.map Prod.fst := by
  induction entries with
  | nil =>
      rw [insertAt, List.map_singleton, List.mem_singleton] at hMem
      exact .inl hMem
  | cons entry rest ih =>
      rcases entry with ⟨h, old⟩
      rw [insertAt] at hMem
      split at hMem
      · exact .inr hMem
      · rw [List.map_cons, List.mem_cons] at hMem ⊢
        rcases hMem with rfl | hRest
        · exact .inr (.inl rfl)
        · exact (ih hRest).imp_right .inr

/- Every digest stays the only one of its kind. -/
theorem nodup_map_fst_insertAt
    (hNodup : (entries.map Prod.fst).Nodup) :
    ((insertAt hash t entries).map Prod.fst).Nodup := by
  induction entries with
  | nil => exact List.nodup_singleton hash
  | cons entry rest ih =>
      rcases entry with ⟨h, old⟩
      rw [List.map_cons, List.nodup_cons] at hNodup
      rw [insertAt]
      split
      · exact List.nodup_cons.mpr hNodup
      · rename_i hOther
        rw [List.map_cons, List.nodup_cons]
        refine ⟨?_, ih hNodup.2⟩
        intro hMem
        rcases mem_map_fst_insertAt hash t rest hMem with rfl | hRest
        · exact hOther (beq_self_eq_true h)
        · exact hNodup.1 hRest

end Entries

/- A digest is among those of a registry if there is a template. -/
theorem mem_map_fst_iff
    {r : Registry}
    {hash : String} :
    hash ∈ r.entries.map Prod.fst ↔ r.ofHash? hash ≠ none := by
  rw [ofHash?, ne_eq, List.lookup_eq_none_iff]
  simp

------------------------------------------------------------
-- Rows One by One
------------------------------------------------------------

/-
  The registry after some numbered rows were put in one after
  another.  A row that is refused leaves what there was.
-/
def insertRows
    (r : Registry)
    (rows : List (Nat × List String)) : Registry :=
  rows.foldl
    (fun r row =>
      match r.insertRow row.1 row.2 with
      | .ok next => next
      | .error _ => r)
    r

/- The digest that the template of a row is kept under. -/
def hashOf (fields : List String) : String :=
  domainHash (Text.strip (Template.column fields 1))

/- The rows that are templates. -/
def usable (rows : List (Nat × List String)) : List (List String) :=
  (rows.map Prod.snd).filter (Template.IsUsable ·)

/-
  A registry holds the templates of some rows: one under each of
  their digests, merged from the rows with that digest.
-/
structure IsHolding (rows : List (List String)) (r : Registry) :
    Prop where
  nodup : (r.entries.map Prod.fst).Nodup
  absent : ∀ hash,
    r.ofHash? hash = none ↔ ∀ row ∈ rows, hashOf row ≠ hash
  merged : ∀ hash t, r.ofHash? hash = some t →
    Template.IsMerged (rows.filter (hashOf · = hash)) t

/- Without rows there is no template. -/
theorem isHolding_empty : IsHolding [] empty where
  nodup := .nil
  absent := by
    intro hash
    simp [ofHash?, empty]
  merged := by
    rintro hash t ⟨⟩

section Insert

variable {r : Registry} {t : Template}

/- A template is put in under the digest of its domain alone. -/
theorem ofHash?_insert (hash : String) :
    (r.insert t).ofHash? hash =
      if hash = domainHash t.domain then
        some (match r.ofHash? hash with
          | none => t
          | some old => old.extend t)
      else r.ofHash? hash := by
  rw [ofHash?, insert]
  split
  · rename_i hSame
    rw [hSame, lookup_insertAt_self]
    rfl
  · rename_i hOther
    rw [lookup_insertAt_of_ne _ _ _ hOther]
    rfl

/- The template of one more row is added to what is held. -/
theorem IsHolding.insert
    {rows : List (List String)}
    {fields : List String}
    (hHolding : IsHolding rows r)
    (hRead : Template.ofRow fields = .ok t) :
    IsHolding (rows ++ [fields]) (r.insert t) := by
  have hNew := Template.isMerged_of_ofRow hRead
  have hHash : domainHash t.domain = hashOf fields := by
    rw [hashOf, ← Option.some.inj hNew.domain]
  constructor
  · exact nodup_map_fst_insertAt _ _ _ hHolding.nodup
  · intro hash
    rw [ofHash?_insert, hHash, List.forall_mem_append,
      List.forall_mem_singleton]
    split
    · rename_i hSame
      simp [hSame]
    · rename_i hOther
      rw [hHolding.absent]
      exact ⟨fun hAbsent => ⟨hAbsent, Ne.symm hOther⟩, And.left⟩
  · intro hash u hFound
    rw [ofHash?_insert, hHash] at hFound
    rw [List.filter_append]
    split at hFound
    · rename_i hSame
      cases hSame
      cases hFound
      have hLast :
          [fields].filter (hashOf · = hashOf fields) = [fields] := by
        simp
      rw [hLast]
      cases hOld : r.ofHash? (hashOf fields) with
      | none =>
          have hNone : rows.filter (hashOf · = hashOf fields) = [] := by
            rw [List.filter_eq_nil_iff]
            intro row hRow
            rw [decide_eq_true_iff]
            exact (hHolding.absent _).mp hOld row hRow
          rw [hNone]
          exact hNew
      | some old => exact (hHolding.merged _ _ hOld).extend hNew
    · rename_i hOther
      have hLast : [fields].filter (hashOf · = hash) = [] := by
        simp [Ne.symm hOther]
      rw [hLast, List.append_nil]
      exact hHolding.merged hash u hFound

end Insert

------------------------------------------------------------
-- Whole Tables
------------------------------------------------------------

/- A row is put in if it is a template. -/
theorem exists_insertRow_iff
    (r : Registry)
    (number : Nat)
    (fields : List String) :
    (∃ next, r.insertRow number fields = .ok next) ↔
      Template.IsUsable fields := by
  rw [← Template.exists_ofRow_iff]
  unfold insertRow
  cases Template.ofRow fields with
  | error fault => simp
  | ok t => simp

/- Rows are put in as the rows of a table are, whatever their numbers. -/
theorem insertRows_eq_foldl (r : Registry) (rows : List (Nat × List String)) :
    r.insertRows rows = (rows.map Prod.snd).foldl tryRow r := by
  rw [insertRows, List.foldl_map]
  congr 1
  funext r row
  unfold insertRow tryRow
  cases Template.ofRow row.2 <;> rfl

/- A row that is no template changes nothing. -/
theorem tryRow_of_not_isUsable
    {fields : List String}
    (hUnusable : ¬Template.IsUsable fields)
    (r : Registry) :
    r.tryRow fields = r := by
  unfold tryRow
  cases hRead : Template.ofRow fields with
  | error fault => rfl
  | ok t => exact absurd (Template.exists_ofRow_iff.mp ⟨t, hRead⟩) hUnusable

/- Of the rows put in, the usable ones are held. -/
theorem isHolding_insertRows (rows : List (Nat × List String)) :
    IsHolding (usable rows) (empty.insertRows rows) := by
  rw [insertRows_eq_foldl, usable]
  induction rows.map Prod.snd using List.reverseRecOn with
  | nil => exact isHolding_empty
  | append_singleton rows fields ih =>
      rw [List.foldl_append, List.filter_append, List.foldl_cons,
        List.foldl_nil]
      by_cases hUsable : Template.IsUsable fields
      · rcases Template.exists_ofRow_iff.mpr hUsable with ⟨t, hRead⟩
        have hTry : ∀ r : Registry, r.tryRow fields = r.insert t := by
          intro r
          unfold tryRow
          rw [hRead]
        have hLast :
            [fields].filter (Template.IsUsable ·) = [fields] := by
          simp [hUsable]
        rw [hTry, hLast]
        exact ih.insert hRead
      · have hLast : [fields].filter (Template.IsUsable ·) = [] := by
          simp [hUsable]
        rw [tryRow_of_not_isUsable hUsable, hLast, List.append_nil]
        exact ih

/- There are as many templates as there are digests of rows. -/
theorem IsHolding.size_eq
    {rows : List (List String)}
    {r : Registry}
    (hHolding : IsHolding rows r) :
    r.size = (rows.map hashOf).toFinset.card := by
  have hSame :
      (r.entries.map Prod.fst).toFinset = (rows.map hashOf).toFinset := by
    ext hash
    rw [List.mem_toFinset, List.mem_toFinset, mem_map_fst_iff, ne_eq,
      hHolding.absent, List.mem_map]
    push Not
    rfl
  rw [← hSame, List.toFinset_card_of_nodup hHolding.nodup, List.length_map]
  rfl

/-
  Rows are put in if they are templates, and other rows change
  nothing.  Under a digest there is a template if some usable
  row has that digest, and it is merged from those rows in their
  order.  There is one template for each digest.  Reading a
  table is putting in its rows.
-/
theorem insertRows_merges (rows : List (Nat × List String)) :
    (∀ (r : Registry) number fields,
      ((∃ next, r.insertRow number fields = .ok next) ↔
        Template.IsUsable fields) ∧
      (¬Template.IsUsable fields →
        r.insertRows [(number, fields)] = r)) ∧
    (∀ hash,
      ((empty.insertRows rows).ofHash? hash = none ↔
        ∀ row ∈ usable rows, hashOf row ≠ hash) ∧
      ∀ t, (empty.insertRows rows).ofHash? hash = some t →
        Template.IsMerged ((usable rows).filter (hashOf · = hash)) t) ∧
    (empty.insertRows rows).size =
      ((usable rows).map hashOf).toFinset.card ∧
    ∀ bytes, rows.map Prod.snd = Table.rows bytes →
      ofBytes bytes = empty.insertRows rows := by
  have hHolding := isHolding_insertRows rows
  refine ⟨?_, ?_, hHolding.size_eq, ?_⟩
  · intro r number fields
    refine ⟨exists_insertRow_iff r number fields, ?_⟩
    intro hUnusable
    rw [insertRows_eq_foldl]
    exact tryRow_of_not_isUsable hUnusable r
  · intro hash
    exact ⟨hHolding.absent hash, hHolding.merged hash⟩
  · intro bytes hRows
    rw [insertRows_eq_foldl, hRows]
    rfl

/- A table of a shop, with a row between two others that is no template. -/
def shopTable : List UInt8 :=
  ("a.example,html,,,x,,,,,,\na.example,text,,,y,,,,,,\n" ++
    " a.example,WEB,,,z,,,,,,\n").toUTF8.toList

/- The rows of the table, numbered. -/
def shopTableRows : List (Nat × List String) :=
  [(1, ["a.example", "html", "", "", "x", "", "", "", "", "", ""]),
    (2, ["a.example", "text", "", "", "y", "", "", "", "", "", ""]),
    (3, [" a.example", "WEB", "", "", "z", "", "", "", "", "", ""])]

/- The table holds one template, which is merged from two of its rows. -/
theorem insertRows_merges_sample :
    shopTableRows.map Prod.snd = Table.rows shopTable ∧
      (usable shopTableRows).length = 2 ∧
      (ofBytes shopTable).size = 1 ∧
      ∃ t, (ofBytes shopTable).ofHash? (domainHash "a.example") =
          some t ∧
        t.domain = "a.example" ∧ t.kind = .web ∧
        t.title = [⟨"x", [], ⟨["x"], none⟩⟩, ⟨"z", [], ⟨["z"], none⟩⟩] := by
  have hRows : shopTableRows.map Prod.snd = Table.rows shopTable := by
    decide +kernel
  have hOwn :
      (usable shopTableRows).filter
          (hashOf · = domainHash "a.example") =
        [["a.example", "html", "", "", "x", "", "", "", "", "", ""],
          [" a.example", "WEB", "", "", "z", "", "", "", "", "", ""]] := by
    decide +kernel
  rcases insertRows_merges shopTableRows with
    ⟨_, hEach, hSize, hLoad⟩
  rcases hEach (domainHash "a.example") with ⟨hAbsent, hMerged⟩
  rw [hLoad shopTable hRows]
  refine ⟨hRows, by decide +kernel, ?_, ?_⟩
  · rw [hSize]
    decide +kernel
  · cases hFound : (empty.insertRows shopTableRows).ofHash?
        (domainHash "a.example") with
    | none =>
        have hNone := List.filter_eq_nil_iff.mpr fun row hRow =>
          mt of_decide_eq_true (hAbsent.mp hFound row hRow)
        rw [hOwn] at hNone
        cases hNone
    | some t =>
        have hShop := hMerged t hFound
        rw [hOwn] at hShop
        refine ⟨t, rfl, ?_, ?_, ?_⟩
        · exact (Option.some.inj hShop.domain).symm.trans (by decide +kernel)
        · have hKind :=
            PageKind.ofName_eq_ok_iff.mpr (Option.some.inj hShop.kind)
          have hWeb : PageKind.ofName "WEB" = .ok .web := by
            decide +kernel
          exact Except.ok.inj (hKind.symm.trans hWeb)
        · refine (hShop.candidates .title).trans ?_
          decide +kernel

end Registry

end Gleaner
