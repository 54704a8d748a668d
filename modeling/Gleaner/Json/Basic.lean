import Gleaner.Decimal.Binary64

/-
  Values of the data format JSON.

  Key definitions include:
    * `Json.Number`
    * `Json`
    * `Json.insertField`
    * `Json.ofFields`
    * `Json.field?`
-/

namespace Gleaner

------------------------------------------------------------
-- Values
------------------------------------------------------------

/-
  A number is whole, with a sign of its own, or real.  The
  whole numbers have 64 bits.
-/
inductive Json.Number
  | natural (n : Nat)
  | negative (n : Nat)
  | real (x : Binary64)
deriving DecidableEq, Repr

/- A value.  The fields of an object stand in the order of their names. -/
inductive Json
  | null
  | bool (b : Bool)
  | number (n : Json.Number)
  | text (s : String)
  | array (items : List Json)
  | object (fields : List (String × Json))
deriving Repr, Inhabited

namespace Json

------------------------------------------------------------
-- Objects
------------------------------------------------------------

/-
  Set a field of an object, in the order of the names.  A field
  of the same name is replaced.
-/
def insertField (name : String) (value : Json) :
    List (String × Json) → List (String × Json)
  | [] => [(name, value)]
  | (n, v) :: rest =>
      if name < n then (name, value) :: (n, v) :: rest
      else if name = n then (name, value) :: rest
      else (n, v) :: insertField name value rest

/- The object with the given fields, of which later ones win. -/
def ofFields (fields : List (String × Json)) : Json :=
  .object (fields.foldl (fun o (n, v) => insertField n v o) [])

/- The value of a name among the fields of an object. -/
def lookup (name : String) : List (String × Json) → Option Json
  | [] => none
  | (n, v) :: rest => if n = name then some v else lookup name rest

/- The field of an object. -/
def field? (name : String) : Json → Option Json
  | .object fields => lookup name fields
  | _ => none

/- A whole number. -/
def ofNat (n : Nat) : Json :=
  .number (.natural n)

/- A list of texts. -/
def ofTexts (texts : List String) : Json :=
  .array (texts.map .text)

/- The value, or `null` in its absence. -/
def ofOption (toJson : α → Json) : Option α → Json
  | some a => toJson a
  | none => .null

end Json

end Gleaner
