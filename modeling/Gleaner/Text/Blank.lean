/-
  White space of the Unicode standard, and its removal from
  the ends of a text.

  Key definitions include:
    * `Text.isBlank`
    * `Text.AllBlank`
    * `Text.trimStart`
    * `Text.trimEnd`
    * `Text.trim`
    * `Text.strip`
-/

namespace Gleaner

namespace Text

------------------------------------------------------------
-- White Space
------------------------------------------------------------

/-
  The characters with the property `White_Space`.  The zero
  width space and the byte order mark are not among them.
-/
def isBlank (c : Char) : Bool :=
  let n := c.toNat
  (9 ≤ n && n ≤ 13) || n == 0x20 || n == 0x85 || n == 0xA0 ||
    n == 0x1680 || (0x2000 ≤ n && n ≤ 0x200A) ||
    n == 0x2028 || n == 0x2029 || n == 0x202F ||
    n == 0x205F || n == 0x3000

/- A text of white space only. -/
def AllBlank (cs : List Char) : Prop :=
  ∀ c ∈ cs, isBlank c = true

instance (cs : List Char) : Decidable (AllBlank cs) :=
  List.decidableBAll (fun c => isBlank c = true) cs

------------------------------------------------------------
-- Trimming
------------------------------------------------------------

/- Drop the white space in front. -/
def trimStart : List Char → List Char
  | [] => []
  | c :: rest => if isBlank c then trimStart rest else c :: rest

/- Drop the white space at the end. -/
def trimEnd : List Char → List Char
  | [] => []
  | c :: rest =>
      match trimEnd rest with
      | [] => if isBlank c then [] else [c]
      | kept => c :: kept

/- Drop the white space at both ends. -/
def trim (cs : List Char) : List Char :=
  trimEnd (trimStart cs)

/- The text without the white space at its ends. -/
def strip (s : String) : String :=
  String.ofList (trim s.toList)

end Text

end Gleaner
