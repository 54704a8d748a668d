import Gleaner.Product.Record
import Gleaner.Text.Utf8

/-
  The directory that media of a day are put in.

  Key definitions include:
    * `Shelf`
    * `Shelf.Place`
    * `Shelf.isPlain`
    * `Shelf.System`
    * `Shelf.finds`
    * `Shelf.Delivery`
    * `Shelf.receive`
    * `Shelf.deliver`
-/

namespace Gleaner

/-
  The directory of a day.  It is made when the first file is
  put in, which is not possible when it is blocked.  Besides the
  files in it, `files` holds those elsewhere that names lead to.
-/
structure Shelf where
  blocked : Bool
  made : Bool
  files : List (String × List UInt8)
deriving DecidableEq, Repr

namespace Shelf

/- The directory before anything is put in. -/
def fresh : Shelf :=
  ⟨false, false, []⟩

------------------------------------------------------------
-- Places
------------------------------------------------------------

/-
  What a name leads to: a file, which is there or could be made,
  a folder that is there, or nothing that is there or could be
  made.
-/
inductive Place
  | file (name : String)
  | folder
  | nowhere
deriving DecidableEq, Repr

/- The length of the longest name of a file, in bytes. -/
def maxName : Nat := 255

/- The name is that of a file, and not a path of several names. -/
def isPlain (name : String) : Bool :=
  let cs := name.toList
  !cs.isEmpty && cs != ['.'] && cs != ['.', '.'] &&
    !cs.contains '/' && !cs.contains '\x00' &&
    decide ((Utf8.encode cs).length ≤ maxName)

/-
  The system that keeps the files.  It says what a name leads to
  that is joined to the directory, before the directory is made
  and from then on.  A name may be any path; a plain name leads to
  the file of that name in the directory.
-/
structure System where
  place : Bool → String → Place
  place_of_isPlain :
    ∀ (made : Bool) (name : String),
      isPlain name = true → place made name = .file name

/- The bytes of a file. -/
def get? (s : Shelf) (name : String) : Option (List UInt8) :=
  s.files.lookup name

/- There is something at a place. -/
def has (s : Shelf) : Place → Bool
  | .file name => (s.get? name).isSome
  | .folder => true
  | .nowhere => false

/- There is something where a name leads to. -/
def finds (s : Shelf) (sys : System) (name : String) : Bool :=
  s.has (sys.place s.made name)

------------------------------------------------------------
-- Deliveries
------------------------------------------------------------

/-
  What becomes of a medium: its file is there already, it is put
  in, it cannot be fetched, or it cannot be put in.
-/
inductive Delivery (E : Type)
  | present
  | stored
  | unfetched (e : E)
  | unwritten
deriving DecidableEq, Repr

/- The medium was asked for. -/
def Delivery.isAsked {E : Type} : Delivery E → Bool
  | .present => false
  | _ => true

/- Make the directory. -/
def make (s : Shelf) : Shelf :=
  { s with made := true }

/- Write a file.  What was in it before is lost. -/
def write (s : Shelf) (name : String) (bytes : List UInt8) : Shelf :=
  { s with files := s.files.filter (·.1 != name) ++ [(name, bytes)] }

/- Make the directory, and write what was fetched for a name. -/
def receive {E : Type}
    (sys : System)
    (s : Shelf)
    (name : String)
    (bytes : List UInt8) : Delivery E × Shelf :=
  if s.blocked then (.unwritten, s)
  else
    match sys.place true name with
    | .file file => (.stored, s.make.write file bytes)
    | _ => (.unwritten, s.make)

/- Fetch a medium and put it in, unless its file is there. -/
def deliver {E : Type}
    (sys : System)
    (fetch : String → Except E (List UInt8))
    (s : Shelf)
    (medium : MediaFile) : Delivery E × Shelf :=
  if s.finds sys medium.name then (.present, s)
  else
    match fetch medium.url with
    | .error e => (.unfetched e, s)
    | .ok bytes => receive sys s medium.name bytes

end Shelf

end Gleaner
