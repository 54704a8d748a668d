import Gleaner.Harvest.Shelf
import Gleaner.Text.Cut
import Gleaner.Time.Moment

/-
  A system of folders in folders, in which a name leads from one
  folder to the next.

  Key definitions include:
    * `Folders`
    * `Folders.ofDay`
    * `Folders.isFolder`
    * `Folders.follow`
    * `Folders.place`
    * `Folders.system`
-/

namespace Gleaner

/-
  The path of the directory of a day, and the paths of folders
  that are there besides it.  A path holds the names on the way
  from the outermost folder.
-/
structure Folders where
  home : List (List Char)
  others : List (List (List Char))
deriving DecidableEq, Repr

namespace Folders

/- The directory of a day among those of other days. -/
def ofDay (media : List (List Char)) (d : Date)
    (others : List (List (List Char))) : Folders :=
  ⟨media ++
    [Moment.writeYear d.year, Text.showPadded 2 d.month,
      Text.showPadded 2 d.day],
    others⟩

------------------------------------------------------------
-- Paths
------------------------------------------------------------

/-
  There is a folder at a path.  The directory is made together
  with the folders around it.
-/
def isFolder (t : Folders) (made : Bool) (path : List (List Char)) :
    Bool :=
  path.isEmpty || t.others.any (path.isPrefixOf ·) ||
    (made && path.isPrefixOf t.home)

/-
  Follow the parts of a name from a path on.  Each part is looked
  up in a folder that is there: one that is empty or a dot leads
  nowhere else, and two dots lead to the folder around.
-/
def follow (t : Folders) (made : Bool) (path : List (List Char)) :
    List (List Char) → Option (List (List Char))
  | [] => some path
  | part :: rest =>
      if !t.isFolder made path then none
      else if part.isEmpty || part == ['.'] then
        follow t made path rest
      else if part == ['.', '.'] then
        follow t made path.dropLast rest
      else if Shelf.maxName < (Utf8.encode part).length then none
      else follow t made (path ++ [part]) rest

/-
  What a file is called: by its name if it is in the directory,
  and else by its path.
-/
def nameOf (t : Folders) (path : List (List Char)) : String :=
  match path.getLast? with
  | some name =>
      if path.dropLast == t.home then String.ofList name
      else String.ofList (path.flatMap ('/' :: ·))
  | none => ""

/-
  What a name leads to.  A path that starts with a slash starts at
  the outermost folder, and all others start at the directory.
-/
def place (t : Folders) (made : Bool) (name : String) : Shelf.Place :=
  let cs := name.toList
  if Shelf.isPlain name then .file name
  else if cs.contains '\x00' then .nowhere
  else
    let start := if cs.head? == some '/' then [] else t.home
    match t.follow made start (Text.cutAt (· == '/') cs) with
    | none => .nowhere
    | some path =>
        if t.isFolder made path then .folder else .file (t.nameOf path)

/- The system of some folders. -/
def system (t : Folders) : Shelf.System where
  place := t.place
  place_of_isPlain := by
    intro made name hPlain
    rw [place, if_pos hPlain]

end Folders

end Gleaner
