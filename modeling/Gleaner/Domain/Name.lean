import Gleaner.Domain.Mapping
import Gleaner.Domain.Punycode
import Gleaner.Domain.Script

/-
  The plain form of domain names.

  Key definitions include:
    * `Domain.isForbidden`
    * `Domain.labelFits`
    * `Domain.isFullForm`
    * `Domain.readLabel?`
    * `Domain.toPlain?`
-/

namespace Gleaner

namespace Domain

------------------------------------------------------------
-- Labels
------------------------------------------------------------

/- The plain characters that no domain name may hold. -/
def isForbidden (c : Char) : Bool :=
  c.toNat ≤ 0x20 || c.toNat == 0x7F ||
    ['%', '#', '/', ':', '<', '>', '?', '@', '[', '\\', ']', '^',
      '|'].contains c

/- A text of plain characters. -/
def isPlain (cs : List Char) : Bool :=
  cs.all (·.toNat < 128)

/- What a plain form of a label starts with. -/
def plainMark : List Char :=
  ['x', 'n', '-', '-']

/- The characters of a label may stand where they do. -/
def labelFits (label : List Char) : Bool :=
  !label.any isForbidden && !label.head?.any isMark &&
    joinersFit label

/-
  The label is in its full form: the rules for domain names do
  not change it, and its characters may stand where they do.
-/
def isFullForm (label : List Char) : Bool :=
  label.all isKept && normalize label == label && labelFits label

/-
  The label that is written in a domain name.  Of a label in its
  plain form, which holds plain characters only, this is the
  full form, which needs that form.
-/
def readLabel? (label : List Char) : Option (List Char) :=
  match Text.dropPrefix? plainMark label with
  | none => if isFullForm label then some label else none
  | some digits =>
      match Punycode.decode? digits with
      | none => none
      | some full =>
          if isPlain digits && !isPlain full && isFullForm full then
            some full
          else none

/- The plain form of a label. -/
def writeLabel (label : List Char) : List Char :=
  if isPlain label then label
  else plainMark ++ Punycode.encode label

------------------------------------------------------------
-- Names
------------------------------------------------------------

/- The plain form of a domain name, if it is one. -/
def toPlain? (cs : List Char) : Option (List Char) := do
  let mapped := normalize (← map? cs)
  let labels ← (Text.cutAt (· == '.') mapped).mapM readLabel?
  if labels.any turnsRight && !labels.all directionFits then none
  else return Text.joinWith ['.'] (labels.map writeLabel)

end Domain

end Gleaner
