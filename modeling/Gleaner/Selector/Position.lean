import Gleaner.Selector.Basic

/-
  Where a match sits inside the repeated structure of a page.

  Key definitions include:
    * `Position`
    * `Position.levels`
    * `Position.key`
    * `Position.enter`
    * `zipStyles`
-/

namespace Gleaner

------------------------------------------------------------
-- Positions
------------------------------------------------------------

/-
  The style label of a match, its slot on every level that was
  crossed, the slot on the level of variants, and the slot on
  the first plain level below it.
-/
structure Position where
  style : String
  slots : List Nat
  goodId : Option Nat
  numId : Option Nat
deriving DecidableEq, Repr

namespace Position

/- The position outside all levels. -/
def outside : Position :=
  ⟨"", [], none, none⟩

/- The name of a slot on a level, counted from one. -/
def slotName (level slot : Nat) : String :=
  "level" ++ toString level ++ "-" ++ toString slot

/- The names of the slots, the outermost first. -/
def levels (p : Position) : List String :=
  p.slots.zipIdx.map fun (slot, i) => slotName (i + 1) slot

/- The key that rows of one and the same slot share. -/
def key (p : Position) : String :=
  match p.goodId with
  | some good =>
      "good_" ++ toString good ++ "-num_" ++ toString (p.numId.getD 0)
  | none => String.intercalate "-" p.levels

/-
  The position of a match one level deeper, with the style
  label that it takes, if any.  A mapping level numbers the
  variants, and the first plain level below one numbers the
  rows.
-/
def enter
    (p : Position)
    (mapping : Bool)
    (style : Option String)
    (slot : Nat) : Position :=
  { style := style.getD p.style,
    slots := p.slots ++ [slot],
    goodId := if mapping then some slot else p.goodId,
    numId :=
      if !mapping && p.goodId.isSome && p.numId.isNone then some slot
      else p.numId }

end Position

------------------------------------------------------------
-- Style Labels
------------------------------------------------------------

/-
  The style label of each of `count` matches and the number of
  its round: the labels are taken in turn.
-/
def zipStyles (labels : List String) (count : Nat) :
    List (String × Nat) :=
  if labels.isEmpty then []
  else
    (List.range count).map fun i =>
      (labels.getD (i % labels.length) "", i / labels.length)

end Gleaner
