import Gleaner.Product.Query
import Gleaner.Proofs.Store.Recall

/-
  Records are read back from their values, with the moments that
  they settle to, and what is asked for by name is an entry of
  the value of the whole record.

  Main declarations:
    * `Json.lookup_insertField`
    * `Moment.read?_write`
    * `Record.ofJson?_toJson`
    * `Record.Part.name`
    * `Record.part_read_back`
-/

namespace Gleaner

------------------------------------------------------------
-- Objects
------------------------------------------------------------

namespace Json

/- A field that is set is found, and the others stay. -/
theorem lookup_insertField
    (name n : String)
    (v : Json)
    (fields : List (String × Json)) :
    lookup name (insertField n v fields) =
      if n = name then some v else lookup name fields := by
  induction fields with
  | nil => rfl
  | cons f fields ih =>
      rcases f with ⟨old, w⟩
      rw [insertField]
      split
      · rfl
      · split
        · rename_i hSame
          rw [lookup, lookup, hSame]
          split
          · rfl
          · rfl
        · rename_i hOther
          rw [lookup, lookup, ih]
          split
          · rename_i hOld
            rw [if_neg (fun hn => hOther (hn.trans hOld.symm))]
          · rfl

/- The fields with some names are looked up one by one. -/
theorem fields?_ofFields
    (names : List String)
    (fields : List (String × Json)) :
    (ofFields fields).fields? names =
      names.mapM fun name =>
        lookup name
          (fields.foldl (fun o (n, v) => insertField n v o) []) :=
  rfl

end Json

------------------------------------------------------------
-- Parts of Records
------------------------------------------------------------

/- A moment is read back from its short form, settled. -/
theorem Moment.read?_write
    {m : Moment}
    (hValid : m.isValid = true) :
    read? m.write = some m.settled := by
  rw [read?, write, String.toList_ofList]
  exact readChars?_writeClock hValid (by decide) (by decide) (by decide)

/- A row of a specification is read back from its value. -/
theorem Trait.ofJson?_toJson (t : Trait) :
    ofJson? t.toJson = some t := by
  rw [ofJson?, toJson, Json.fields?_ofFields]
  simp [Json.lookup_insertField, Json.text?]

/- A bundle or variant is read back from its value. -/
theorem Offer.ofJson?_toJson (o : Offer) :
    ofJson? o.toJson = some o := by
  rw [ofJson?, toJson, Json.fields?_ofFields]
  simp [Json.lookup_insertField, Json.text?]

namespace Record

/- The entries of the value of a record, in the order of its parts. -/
theorem fields?_toJson (r : Record) :
    r.toJson.fields? fieldNames =
      some (r.fieldsJson.map (·.2) ++ [.text r.extractedAt.write]) := by
  rw [toJson, Json.fields?_ofFields]
  simp [fieldNames, fieldsJson, Json.lookup_insertField]

/- A record is read back from its value, settled. -/
theorem ofJson?_toJson
    {r : Record}
    (hDate : r.extractedAt.isValid = true) :
    ofJson? r.toJson = some r.settled := by
  have hTexts : ∀ texts : List String,
      (Json.ofTexts texts).list? Json.text? = some texts :=
    Json.list?_map fun _ => rfl
  have hDescription :
      (descriptionJson r.description).list? Passage.ofJson? =
        some r.description :=
    Json.list?_map Passage.ofJson?_toJson _
  have hSpecification :
      (specificationJson r.specification).list? Trait.ofJson? =
        some r.specification :=
    Json.list?_map Trait.ofJson?_toJson _
  have hGoods :
      (goodsJson r.goods).list? Offer.ofJson? = some r.goods :=
    Json.list?_map Offer.ofJson?_toJson _
  rw [ofJson?, fields?_toJson]
  simp [fieldsJson, Json.text?, hTexts, hDescription, hSpecification,
    hGoods, Moment.read?_write hDate, settled]

------------------------------------------------------------
-- Parts That Are Asked For
------------------------------------------------------------

/- The name of a part, which is also that of its entry. -/
def Part.name : Part → String
  | .cover => "cover"
  | .title => "title"
  | .currency => "currency"
  | .price => "price"
  | .description => "description"
  | .goods => "goods"
  | .specification => "specification"
  | .whole => "record"

/- A part has the name by which it is asked for. -/
theorem Part.ofName_name (p : Part) : ofName p.name = p := by
  cases p <;> decide +kernel

/- A part is an entry of the whole value. -/
theorem field?_toJson
    (r : Record)
    {p : Part}
    (hPart : p ≠ .whole) :
    r.toJson.field? p.name = some (r.part p) := by
  rw [toJson, Json.ofFields, Json.field?]
  cases p with
  | whole => exact absurd rfl hPart
  | _ => simp [fieldsJson, Json.lookup_insertField, Part.name, part]

/-
  The whole value of a record is read as the record, down to the
  last billionth of a second, with the moment that it settles to:
  it is read as it was exactly if it is not of a leap second
  inside a minute.  Every other value that can be asked for is
  the entry of that name in it.
-/
theorem part_read_back
    {r : Record}
    (hDate : r.extractedAt.isValid = true) :
    ofJson? (r.part .whole) = some r.settled ∧
      (ofJson? (r.part .whole) = some r ↔
        r.extractedAt.isSettled = true) ∧
      ∀ p : Part, p ≠ .whole →
        Part.ofName p.name = p ∧
        (r.part .whole).field? p.name = some (r.part p) := by
  have hRead : ofJson? (r.part .whole) = some r.settled :=
    ofJson?_toJson hDate
  refine ⟨hRead, ?_, ?_⟩
  · rw [hRead, Option.some.injEq, settled_eq_self_iff]
  · intro p hPart
    exact ⟨p.ofName_name, r.field?_toJson hPart⟩

/- A record with all kinds of rows, of a leap second long ago. -/
def ancientSample : Record :=
  { Store.sampleRecord "https://shop.example/1" "😀" with
    extractedAt := ⟨⟨-44, 3, 15⟩, 23, 59, 59, 1000000001⟩ }

theorem part_read_back_sample :
    ancientSample.extractedAt.isValid = true ∧
    ofJson? (ancientSample.part .whole) = some ancientSample :=
  ⟨by decide, (part_read_back (by decide)).2.1.mpr (by decide)⟩

/- A leap second inside a minute is read as the second after it. -/
theorem leap_second_is_not_read_back :
    Store.leapRecord.extractedAt.isValid = true ∧
    ofJson? (Store.leapRecord.part .whole) =
      some { Store.leapRecord with
        extractedAt := ⟨⟨2024, 6, 1⟩, 12, 30, 5, 333333333⟩ } ∧
    ofJson? (Store.leapRecord.part .whole) ≠
      some Store.leapRecord := by
  have hRead :
      ofJson? (Store.leapRecord.part .whole) =
        some Store.leapRecord.settled :=
    ofJson?_toJson (by decide)
  refine ⟨by decide, hRead, ?_⟩
  rw [hRead]
  intro hSame
  cases Option.some.inj hSame

end Record

end Gleaner
