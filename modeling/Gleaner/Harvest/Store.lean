import Gleaner.Json.Parse
import Gleaner.Json.Print
import Gleaner.Product.Codec

/-
  The store of records: three tables whose rows are kept under
  the digest of a page.

  Key definitions include:
    * `Store`
    * `Store.empty`
    * `Store.save`
    * `Store.load`
    * `Store.hashes`
-/

namespace Gleaner

------------------------------------------------------------
-- Tables
------------------------------------------------------------

/-
  The row of a product.  Lists are kept as JSON texts, and the
  moment is kept as a text.
-/
structure Store.Product where
  hash : String
  pageUrl : String
  template : String
  title : String
  price : String
  currency : String
  cover : String
  description : String
  extractedAt : String
deriving DecidableEq, Repr

/-
  The tables of products, specifications and goods.  The rows of
  a table are in the order in which they were put in.
-/
structure Store where
  products : List Store.Product
  traits : List (String × Trait)
  offers : List (String × Offer)
deriving DecidableEq, Repr

namespace Store

/- Nothing is stored. -/
def empty : Store :=
  ⟨[], [], []⟩

/- The digests of all stored pages. -/
def hashes (s : Store) : List String :=
  s.products.map (·.hash)

------------------------------------------------------------
-- Saving
------------------------------------------------------------

/- The row of the product of a record. -/
def Product.ofRecord (r : Record) : Product where
  hash := r.pageHash
  pageUrl := r.pageUrl
  template := r.template
  title := r.title
  price := (Json.ofTexts r.price).compact
  currency := r.currency
  cover := (Json.ofTexts r.cover).compact
  description := (descriptionJson r.description).compact
  extractedAt := r.extractedAt.writeWithOffset

/- Put rows under a digest in the place of those that are there. -/
def replace (hash : String) (new : List α)
    (rows : List (String × α)) : List (String × α) :=
  rows.filter (·.1 != hash) ++ new.map fun row => (hash, row)

/- Put a record in the place of everything stored for its page. -/
def save (s : Store) (r : Record) : Store where
  products :=
    s.products.filter (·.hash != r.pageHash) ++ [Product.ofRecord r]
  traits := replace r.pageHash r.specification s.traits
  offers := replace r.pageHash r.goods s.offers

/- Put in records, one after another. -/
def saveAll (s : Store) (rs : List Record) : Store :=
  rs.foldl save s

------------------------------------------------------------
-- Loading
------------------------------------------------------------

/- A row that no record was saved in. -/
structure Damage where
  hash : String
deriving DecidableEq, Repr

/- The rows under a digest. -/
def rowsUnder (hash : String) (rows : List (String × α)) : List α :=
  (rows.filter (·.1 == hash)).map (·.2)

/- The values of a list that is kept as a text. -/
def readList? (read : Json → Option α) (text : String) :
    Option (List α) :=
  (Json.parse? text).bind (Json.list? read)

/- The record of a product with the rows that belong to it. -/
def Product.record? (p : Product)
    (specification : List Trait)
    (goods : List Offer) : Option Record := do
  return {
    pageUrl := p.pageUrl
    template := p.template
    cover := ← readList? Json.text? p.cover
    title := p.title
    price := ← readList? Json.text? p.price
    currency := p.currency
    description := ← readList? Passage.ofJson? p.description
    specification := specification
    goods := goods
    extractedAt := ← Moment.read? p.extractedAt }

/- The record under a digest. -/
def load (s : Store) (hash : String) :
    Except Damage (Option Record) :=
  match s.products.find? (·.hash == hash) with
  | none => .ok none
  | some p =>
      match p.record? (rowsUnder hash s.traits)
          (rowsUnder hash s.offers) with
      | some r => .ok (some r)
      | none => .error ⟨hash⟩

/- All records that can be read. -/
def records (s : Store) : List Record :=
  s.hashes.filterMap fun hash =>
    match s.load hash with
    | .ok r => r
    | .error _ => none

end Store

end Gleaner
