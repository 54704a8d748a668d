import Gleaner.Text.Utf8

/-
  Tables of text: rows of fields with commas between them.  A
  field may stand in quotes, inside which a quote is written
  twice and line ends belong to the field.

  Key definitions include:
    * `Table.Place`
    * `Table.State`
    * `Table.State.step`
    * `Table.readBytes`
    * `Table.rows`
-/

namespace Gleaner

namespace Table

------------------------------------------------------------
-- Rows of Bytes
------------------------------------------------------------

/-
  Where reading is: between rows, at the start of a field, in a
  field, in quotes, or behind a quote that stands in quotes.
-/
inductive Place
  | row
  | start
  | field
  | quoted
  | afterQuote
deriving DecidableEq, Repr

/-
  Reading is under way: the field, the fields before it in its
  row, and the rows before, the last one first in each.
-/
structure State where
  place : Place
  field : List UInt8
  fields : List (List UInt8)
  rows : List (List (List UInt8))
deriving Repr

def comma : UInt8 := 44
def quote : UInt8 := 34
def lineFeed : UInt8 := 10
def carriageReturn : UInt8 := 13

/- Either kind of line end ends a row. -/
def isLineEnd (b : UInt8) : Bool :=
  b == lineFeed || b == carriageReturn

namespace State

/- Nothing has been read. -/
def empty : State :=
  ⟨.row, [], [], []⟩

/- Another byte of the field. -/
def keep (s : State) (place : Place) (b : UInt8) : State :=
  { s with place := place, field := b :: s.field }

/- The end of the field. -/
def endField (s : State) : State :=
  { s with
    place := .start
    field := []
    fields := s.field.reverse :: s.fields }

/- The end of the field and of the row. -/
def endRow (s : State) : State :=
  let s := s.endField
  ⟨.row, [], [], s.fields.reverse :: s.rows⟩

/- A byte in a field, outside quotes. -/
def stepField (s : State) (b : UInt8) : State :=
  if b == comma then s.endField
  else if isLineEnd b then s.endRow
  else s.keep .field b

/- A byte.  Line ends between rows have no meaning. -/
def step (s : State) (b : UInt8) : State :=
  match s.place with
  | .row =>
      if isLineEnd b then s
      else if b == quote then { s with place := .quoted }
      else s.stepField b
  | .start =>
      if b == quote then { s with place := .quoted }
      else s.stepField b
  | .field => s.stepField b
  | .quoted =>
      if b == quote then { s with place := .afterQuote }
      else s.keep .quoted b
  | .afterQuote =>
      if b == quote then s.keep .quoted b else s.stepField b

/- The rows, of which the last one may lack a line end. -/
def finish (s : State) : List (List (List UInt8)) :=
  match s.place with
  | .row => s.rows.reverse
  | _ => s.endRow.rows.reverse

end State

/- Bytes without the mark that may start them. -/
def dropMark : List UInt8 → List UInt8
  | 0xEF :: 0xBB :: 0xBF :: rest => rest
  | bytes => bytes

/- The rows of fields in some bytes. -/
def readBytes (bytes : List UInt8) : List (List (List UInt8)) :=
  ((dropMark bytes).foldl State.step .empty).finish

------------------------------------------------------------
-- Rows of Texts
------------------------------------------------------------

/- The texts of a row; there are none unless all bytes are text. -/
def rowText? (row : List (List UInt8)) : Option (List String) :=
  row.mapM fun field => (Utf8.decode? field).map String.ofList

/- The rows in some bytes whose fields are texts. -/
def rows (bytes : List UInt8) : List (List String) :=
  (readBytes bytes).filterMap rowText?

end Table

end Gleaner
