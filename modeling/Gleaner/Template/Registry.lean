import Gleaner.Product.Page
import Gleaner.Template.Basic
import Gleaner.Template.Table

/-
  The templates of all shops, read from a table with one row
  for each of them or for a part of one.

  Key definitions include:
    * `Registry`
    * `Registry.Error`
    * `Registry.Error.message`
    * `Template.ofRow`
    * `Registry.insertRow`
    * `Registry.get?`
    * `Registry.ofBytes`
-/

namespace Gleaner

------------------------------------------------------------
-- Rows
------------------------------------------------------------

/- The ways in which a row fails to be a template. -/
inductive Registry.Fault
  | short (found : Nat)
  | noDomain
  | unknownKind (name : String)
deriving DecidableEq, Repr

/- A row that is no template, and why. -/
structure Registry.Error where
  row : Nat
  fault : Registry.Fault
deriving DecidableEq, Repr

namespace Template

/- The number of columns that a row has to have. -/
def columns : Nat := 11

/- The expressions of a column that can be read. -/
def readList (column : String) : List Selector :=
  let sources := (Text.cutAt (· == '+') column.toList).map Text.trim
  (sources.filter (!·.isEmpty)).filterMap fun source =>
    (Selector.parse (String.ofList source)).toOption

/- The template of a row.  What follows its columns is left out. -/
def ofRow : List String → Except Registry.Fault Template
  | domain :: kind :: order :: cover :: title :: price ::
      description :: goods :: specification :: _ :: _ :: _ => do
      let domain := Text.strip domain
      if domain.isEmpty then throw .noDomain
      match PageKind.ofName kind with
      | .error name => throw (.unknownKind name)
      | .ok kind =>
          return {
            domain := domain
            kind := kind
            order := readList order
            cover := readList cover
            title := readList title
            price := readList price
            description := readList description
            specification := readList specification
            goods := readList goods }
  | fields => .error (.short fields.length)

end Template

------------------------------------------------------------
-- Registries
------------------------------------------------------------

/- Templates under the digests of their domains. -/
structure Registry where
  entries : List (String × Template)
deriving DecidableEq, Repr

namespace Registry

/- The wording of an error. -/
def Error.message (e : Error) : String :=
  let row := "row " ++ toString e.row
  match e.fault with
  | .short found =>
      row ++ " has " ++ toString found ++ " columns, at least " ++
        toString Template.columns ++ " required"
  | .noDomain => row ++ " has an empty domain"
  | .unknownKind name =>
      row ++ " has unknown character " ++ Quoted.encode name

/- No templates. -/
def empty : Registry :=
  ⟨[]⟩

/- The number of shops. -/
def size (r : Registry) : Nat :=
  r.entries.length

/- The template under a digest. -/
def ofHash? (r : Registry) (hash : String) : Option Template :=
  r.entries.lookup hash

/- The template of a domain. -/
def get? (r : Registry) (domain : String) : Option Template :=
  r.ofHash? (domainHash domain)

/-
  Put a template under a digest, or extend the one that is
  there.
-/
def insertAt (hash : String) (t : Template) :
    List (String × Template) → List (String × Template)
  | [] => [(hash, t)]
  | (h, old) :: rest =>
      if h == hash then (h, old.extend t) :: rest
      else (h, old) :: insertAt hash t rest

/- Put in a template, or extend the one of its domain. -/
def insert (r : Registry) (t : Template) : Registry :=
  ⟨insertAt (domainHash t.domain) t r.entries⟩

/- Put in the template of a row with its number. -/
def insertRow (r : Registry) (row : Nat) (fields : List String) :
    Except Error Registry :=
  match Template.ofRow fields with
  | .ok t => .ok (r.insert t)
  | .error fault => .error ⟨row, fault⟩

/- Put in the template of a row, if it is one. -/
def tryRow (r : Registry) (fields : List String) : Registry :=
  match Template.ofRow fields with
  | .ok t => r.insert t
  | .error _ => r

/- The templates of a table; other rows are passed over. -/
def ofBytes (bytes : List UInt8) : Registry :=
  (Table.rows bytes).foldl tryRow empty

end Registry

end Gleaner
