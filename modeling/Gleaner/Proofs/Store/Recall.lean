import Gleaner.Proofs.Json.ReadBack
import Gleaner.Proofs.Store.Parts
import Gleaner.Proofs.Time.ReadBack
import Mathlib.Data.List.Induction

/-
  Saved records are recalled as they were saved, whatever was
  saved before and elsewhere.  The moment of a record is the one
  that it settles to when it is written.

  Main declarations:
    * `Record.settled`
    * `Store.record?_ofRecord`
    * `Store.load_save_self`
    * `Store.load_saveAll`
-/

namespace Gleaner

------------------------------------------------------------
-- Columns That Are Kept as Texts
------------------------------------------------------------

namespace Json

/- Values that are read one by one are read as a list. -/
theorem list?_map
    {read : Json → Option α}
    {write : α → Json}
    (hRead : ∀ a, read (write a) = some a)
    (items : List α) :
    list? read (.array (items.map write)) = some items := by
  unfold list?
  induction items with
  | nil => rfl
  | cons a items ih =>
      simp only at ih ⊢
      simp [hRead, ih]

/- A list of texts has no numbers. -/
theorem plain_ofTexts (texts : List String) :
    Plain maxDepth (.ofTexts texts) := by
  apply Plain.array
  intro v hv
  rcases List.mem_map.mp hv with ⟨s, _, rfl⟩
  exact .text s

end Json

namespace Passage

/- The fields of a passage are in order. -/
theorem pairwise_kind_value (kind value : Json) :
    [("kind", kind), ("value", value)].Pairwise (·.1 < ·.1) := by
  have hOrder : "kind" < "value" := by decide
  simp only [List.pairwise_cons, List.mem_singleton,
    List.not_mem_nil, forall_eq, false_implies, implies_true,
    List.Pairwise.nil, and_true]
  exact hOrder

/- The fields of a passage make up its value as they are. -/
theorem ofFields_kind_value (kind value : Json) :
    Json.ofFields [("kind", kind), ("value", value)] =
      .object [("kind", kind), ("value", value)] :=
  Json.ofFields_of_pairwise (pairwise_kind_value kind value)

/- A passage is read back from its value. -/
theorem ofJson?_toJson (p : Passage) :
    ofJson? p.toJson = some p := by
  cases p with
  | text s =>
      rw [toJson, ofFields_kind_value]
      rfl
  | media url =>
      rw [toJson, ofFields_kind_value]
      rfl

/- A description has no numbers. -/
theorem plain_descriptionJson (ps : List Passage) :
    Json.Plain Json.maxDepth (descriptionJson ps) := by
  apply Json.Plain.array
  intro v hv
  rcases List.mem_map.mp hv with ⟨p, _, rfl⟩
  have hObject :
      ∀ kind value : String,
        Json.Plain 126
          (.object
            [("kind", .text kind), ("value", .text value)]) := by
    intro kind value
    refine .object _ (pairwise_kind_value _ _) ?_
    intro f hf
    simp only [List.mem_cons, List.not_mem_nil, or_false] at hf
    rcases hf with rfl | rfl
    · exact .text kind
    · exact .text value
  cases p with
  | text s =>
      rw [toJson, ofFields_kind_value]
      exact hObject "text" s
  | media url =>
      rw [toJson, ofFields_kind_value]
      exact hObject "media" url

end Passage

------------------------------------------------------------
-- Records of a Written Moment
------------------------------------------------------------

namespace Record

/- The record with the moment that is read where its own is written. -/
def settled (r : Record) : Record :=
  { r with extractedAt := r.extractedAt.settled }

/- A record is as it was but for a leap second inside a minute. -/
theorem settled_eq_self_iff (r : Record) :
    r.settled = r ↔ r.extractedAt.isSettled = true := by
  rw [← Moment.settled_eq_self_iff]
  constructor
  · intro hSame
    exact congrArg Record.extractedAt hSame
  · intro hSame
    rw [settled, hSame]

end Record

namespace Store

/- A column of texts is read back. -/
theorem readList?_ofTexts (texts : List String) :
    readList? Json.text? (Json.ofTexts texts).compact =
      some texts := by
  have hRead : ∀ s : String, Json.text? (.text s) = some s :=
    fun _ => rfl
  rw [readList?, Json.parse?_compact (Json.plain_ofTexts texts)]
  exact Json.list?_map hRead texts

/- A column of passages is read back. -/
theorem readList?_descriptionJson (ps : List Passage) :
    readList? Passage.ofJson? (descriptionJson ps).compact =
      some ps := by
  rw [readList?, Json.parse?_compact (Passage.plain_descriptionJson ps)]
  exact Json.list?_map Passage.ofJson?_toJson ps

/- Descriptions that are written alike are the same. -/
theorem compact_descriptionJson_injective :
    Function.Injective fun ps : List Passage =>
      (descriptionJson ps).compact := by
  intro ps qs hSame
  have hRead := readList?_descriptionJson ps
  rw [show (descriptionJson ps).compact = _ from hSame,
    readList?_descriptionJson] at hRead
  exact (Option.some.inj hRead).symm

------------------------------------------------------------
-- Saving and Loading One Record
------------------------------------------------------------

/- A record is put together again from its row and its rows. -/
theorem record?_ofRecord
    {r : Record}
    (hDate : r.extractedAt.isValid = true) :
    (Product.ofRecord r).record? r.specification r.goods =
      some r.settled := by
  simp [Product.record?, Product.ofRecord, readList?_ofTexts,
    readList?_descriptionJson, Moment.read?_writeWithOffset hDate,
    Record.settled]

/- A record that was just saved is loaded. -/
theorem load_save_self
    (s : Store)
    {r : Record}
    (hDate : r.extractedAt.isValid = true) :
    (s.save r).load r.pageHash = .ok (some r.settled) := by
  have hAlone :
      (s.save r).under r.pageHash =
        (empty.save r).under r.pageHash := by
    rw [under_save_self, under_save_self]
  have hRows :
      ∀ {α : Type} (new : List α),
        rowsUnder r.pageHash (replace r.pageHash new []) = new := by
    intro α new
    rw [rowsUnder, filter_replace_self, List.map_map]
    exact List.map_id new
  have hFound :
      (empty.save r).products.find? (·.hash == r.pageHash) =
        some (Product.ofRecord r) := by
    simp [save, empty, Product.ofRecord]
  rw [load_congr hAlone, load, hFound]
  simp only [save, empty, hRows, record?_ofRecord hDate]

/- A record that is all there is under its digest is loaded. -/
theorem load_of_under_eq
    {s : Store}
    {r : Record}
    (hDate : r.extractedAt.isValid = true)
    (hUnder : s.under r.pageHash = empty.save r) :
    s.load r.pageHash = .ok (some r.settled) := by
  rw [load_congr (hUnder.trans (under_save_self empty r).symm)]
  exact load_save_self empty hDate

/- Records that are stored alike but for dates have one description. -/
theorem description_eq_of_undated
    {r q : Record}
    (hSame : (empty.save r).undated = (empty.save q).undated) :
    r.description = q.description := by
  apply compact_descriptionJson_injective
  have hRows := congrArg (·.products.map (·.description)) hSame
  simpa [undated, save, empty, Product.ofRecord] using hRows

/- Saving a record does not change what is loaded for others. -/
theorem load_save_of_ne
    {s : Store}
    {r : Record}
    {hash : String}
    (hOther : r.pageHash ≠ hash) :
    (s.save r).load hash = s.load hash :=
  load_congr (under_save_of_ne hOther)

------------------------------------------------------------
-- Saving Many Records
------------------------------------------------------------

/- The record that was saved last under a digest. -/
def lastUnder? (hash : String) (rs : List Record) : Option Record :=
  rs.reverse.find? (·.pageHash == hash)

/- A record that is saved last is the last under its digest. -/
theorem lastUnder?_append_singleton
    (hash : String)
    (rs : List Record)
    (r : Record) :
    lastUnder? hash (rs ++ [r]) =
      if r.pageHash = hash then some r else lastUnder? hash rs := by
  simp only [lastUnder?, List.reverse_append, List.reverse_cons,
    List.reverse_nil, List.nil_append, List.singleton_append]
  split
  · rename_i hSame
    exact List.find?_cons_of_pos (by simpa using hSame)
  · rename_i hOther
    exact List.find?_cons_of_neg (by simpa using hOther)

/- Records are saved one after another. -/
theorem saveAll_append_singleton
    (s : Store)
    (rs : List Record)
    (r : Record) :
    s.saveAll (rs ++ [r]) = (s.saveAll rs).save r := by
  simp [saveAll]

/- Records are saved part by part. -/
theorem saveAll_append
    (s : Store)
    (rs qs : List Record) :
    s.saveAll (rs ++ qs) = (s.saveAll rs).saveAll qs :=
  List.foldl_append

/-
  Under a digest is what the last record left there, and what was
  there before if there was none.
-/
theorem under_saveAll_getD
    (s : Store)
    (rs : List Record)
    (hash : String) :
    (s.saveAll rs).under hash =
      ((lastUnder? hash rs).map empty.save).getD (s.under hash) := by
  induction rs using List.reverseRecOn with
  | nil => rfl
  | append_singleton rs r ih =>
      rw [saveAll_append_singleton, lastUnder?_append_singleton]
      split
      · rename_i hSame
        subst hSame
        exact under_save_self _ r
      · rename_i hOther
        rw [under_save_of_ne hOther]
        exact ih

/- Under a digest is what the last record left there, and no more. -/
theorem under_saveAll
    (rs : List Record)
    (hash : String) :
    (empty.saveAll rs).under hash =
      ((lastUnder? hash rs).map empty.save).getD empty :=
  under_saveAll_getD empty rs hash

/- Under the digest of a saved record is one of those that were. -/
theorem exists_under_saveAll
    (s : Store)
    {rs : List Record}
    {q : Record}
    (hq : q ∈ rs) :
    ∃ r ∈ rs, r.pageHash = q.pageHash ∧
      (s.saveAll rs).under q.pageHash = empty.save r := by
  have hSome : (lastUnder? q.pageHash rs).isSome := by
    rw [lastUnder?, List.find?_isSome]
    exact ⟨q, List.mem_reverse.mpr hq, beq_self_eq_true _⟩
  rcases Option.isSome_iff_exists.mp hSome with ⟨r, hLast⟩
  have hHash : r.pageHash = q.pageHash := by
    simpa using List.find?_some hLast
  refine ⟨r, ?_, hHash, ?_⟩
  · exact List.mem_reverse.mp (List.mem_of_find?_eq_some hLast)
  · rw [under_saveAll_getD, hLast]
    rfl

/- The digests of stored pages grow by those of the saved records. -/
theorem mem_hashes_saveAll_iff
    (s : Store)
    (rs : List Record)
    (hash : String) :
    hash ∈ (s.saveAll rs).hashes ↔
      hash ∈ s.hashes ∨ ∃ r ∈ rs, r.pageHash = hash := by
  induction rs using List.reverseRecOn with
  | nil => simp [saveAll]
  | append_singleton rs r ih =>
      rw [saveAll_append_singleton, mem_hashes_save, ih]
      simp only [List.mem_append, List.mem_singleton]
      constructor
      · rintro (rfl | hOld | ⟨q, hq, rfl⟩)
        · exact .inr ⟨r, .inr rfl, rfl⟩
        · exact .inl hOld
        · exact .inr ⟨q, .inl hq, rfl⟩
      · rintro (hOld | ⟨q, hq | rfl, rfl⟩)
        · exact .inr (.inl hOld)
        · exact .inr (.inr ⟨q, hq, rfl⟩)
        · exact .inl rfl

/- The digests of stored pages are those of the saved records. -/
theorem mem_hashes_saveAll
    (rs : List Record)
    (hash : String) :
    hash ∈ (empty.saveAll rs).hashes ↔
      ∃ r ∈ rs, r.pageHash = hash := by
  rw [mem_hashes_saveAll_iff]
  exact or_iff_right List.not_mem_nil

/- After any saves, what was saved last under a digest is loaded. -/
theorem load_saveAll_eq
    {rs : List Record}
    (hDates : ∀ r ∈ rs, r.extractedAt.isValid = true)
    (hash : String) :
    (empty.saveAll rs).load hash =
      .ok ((lastUnder? hash rs).map Record.settled) := by
  induction rs using List.reverseRecOn with
  | nil => rfl
  | append_singleton rs r ih =>
      have hDate : r.extractedAt.isValid = true :=
        hDates r (by simp)
      have ih := ih fun q hq => hDates q (by simp [hq])
      rw [saveAll_append_singleton, lastUnder?_append_singleton]
      split
      · rename_i hSame
        subst hSame
        exact load_save_self _ hDate
      · rename_i hOther
        rw [load_save_of_ne hOther]
        exact ih

/-
  After any saves, a digest yields the last record that was saved
  under it, with the moment that it settles to, or nothing if
  there was none.  That is the record as it was saved exactly if
  it was not saved in a leap second inside a minute.  The digests
  of stored pages are those that were saved; and no row is left
  of any other record under that digest.
-/
theorem load_saveAll
    {rs : List Record}
    (hDates : ∀ r ∈ rs, r.extractedAt.isValid = true)
    (hash : String) :
    (empty.saveAll rs).load hash =
        .ok ((lastUnder? hash rs).map Record.settled) ∧
      (∀ r, lastUnder? hash rs = some r →
        ((empty.saveAll rs).load hash = .ok (some r) ↔
          r.extractedAt.isSettled = true)) ∧
      (hash ∈ (empty.saveAll rs).hashes ↔
        ∃ r ∈ rs, r.pageHash = hash) ∧
      (empty.saveAll rs).under hash =
        ((lastUnder? hash rs).map empty.save).getD empty := by
  have hLoad := load_saveAll_eq hDates hash
  refine ⟨hLoad, ?_, mem_hashes_saveAll rs hash,
    under_saveAll rs hash⟩
  intro r hLast
  rw [hLoad, hLast, Option.map_some, Except.ok.injEq,
    Option.some.injEq, Record.settled_eq_self_iff]

/- A record of a page, with escapes and all kinds of rows. -/
def sampleRecord (pageUrl title : String) : Record where
  pageUrl := pageUrl
  template := "shop"
  cover := ["https://shop.example/cover.png"]
  title := title
  price := ["1 200", "1\t350"]
  currency := "¥"
  description := [.text "été \"\u0001\"", .media "//m.example/a.gif"]
  specification := [⟨"shop.example", "Größe", "1", "", "\\"⟩]
  goods := [⟨"shop.example", "1 200", "✓", "//m.example/b.mp4"⟩]
  extractedAt := ⟨⟨2016, 12, 31⟩, 23, 59, 59, 1000120000⟩

/- A page that was saved twice is recalled as of the second time. -/
theorem load_saveAll_sample :
    (empty.saveAll
        [sampleRecord "https://shop.example/1" "Ältere",
          sampleRecord "https://shop.example/1" "",
          sampleRecord "https://shop.example/2" "😀"]).load
          (Md5.hex "https://shop.example/1") =
      .ok (some (sampleRecord "https://shop.example/1" "")) := by
  have hLast :
      lastUnder? (Md5.hex "https://shop.example/1")
          [sampleRecord "https://shop.example/1" "Ältere",
            sampleRecord "https://shop.example/1" "",
            sampleRecord "https://shop.example/2" "😀"] =
        some (sampleRecord "https://shop.example/1" "") := by
    decide +kernel
  exact ((load_saveAll (by decide) _).2.1 _ hLast).mpr (by decide)

/- The record in a leap second that is not at the end of a minute. -/
def leapRecord : Record :=
  { sampleRecord "https://shop.example/1" "" with
    extractedAt := ⟨⟨2024, 6, 1⟩, 12, 30, 4, 1333333333⟩ }

/- It is saved as of the next second, and recalled as of that. -/
theorem leap_record_is_changed :
    leapRecord.extractedAt.isValid = true ∧
    (empty.save leapRecord).load leapRecord.pageHash =
      .ok (some { leapRecord with
        extractedAt := ⟨⟨2024, 6, 1⟩, 12, 30, 5, 333333333⟩ }) ∧
    (empty.save leapRecord).load leapRecord.pageHash ≠
      .ok (some leapRecord) := by
  have hLoad :
      (empty.save leapRecord).load leapRecord.pageHash =
        .ok (some leapRecord.settled) :=
    load_save_self empty (by decide)
  refine ⟨by decide, hLoad, ?_⟩
  rw [hLoad]
  intro hSame
  cases Option.some.inj (Except.ok.inj hSame)

end Store

end Gleaner
