import Gleaner.Css.Matching
import Gleaner.Css.Parse

/-
  Selectors of style sheets that do not speak of the scope: what
  they match does not depend on where the search starts.

  Main declarations:
    * `Css.anyUsesScope`
    * `Css.anyHolds_congr`
    * `Css.IsPlain`
-/

namespace Gleaner

namespace Css

open Markup

------------------------------------------------------------
-- Mentions of the Scope
------------------------------------------------------------

mutual

/- The condition speaks of the scope, maybe inside a negation. -/
def Simple.usesScope : Simple → Bool
  | .scope => true
  | .not chains => anyUsesScope chains
  | .any | .unnamed | .name _ | .id _ | .class _ => false
  | .attribute _ _ _ | .nth _ | .only _ | .root | .empty => false

/- Some of the conditions speaks of the scope. -/
def someUsesScope : List Simple → Bool
  | [] => false
  | s :: rest => s.usesScope || someUsesScope rest

/- The chain speaks of the scope. -/
def Chain.usesScope : Chain → Bool
  | .single conditions => someUsesScope conditions
  | .step left _ conditions =>
      left.usesScope || someUsesScope conditions

/- Some of the chains speaks of the scope. -/
def anyUsesScope : List Chain → Bool
  | [] => false
  | chain :: rest => chain.usesScope || anyUsesScope rest

end

------------------------------------------------------------
-- Matches without the Scope
------------------------------------------------------------

variable (scope other : List Nat)

mutual

/- A condition that does not speak of the scope holds in any. -/
theorem Simple.holds_congr
    (e : Element)
    (s : Simple)
    (hPlain : s.usesScope = false) :
    s.holds scope e = s.holds other e := by
  cases s with
  | scope => cases hPlain
  | not chains =>
      rw [Simple.holds, Simple.holds]
      rw [anyHolds_congr e chains hPlain]
  | any | unnamed | name n | id n | «class» n => rfl
  | «attribute» anySpace n test | nth n | only sameType => rfl
  | root | empty => rfl

/- Conditions that do not speak of the scope hold in any. -/
theorem allHold_congr
    (e : Element)
    (conditions : List Simple)
    (hPlain : someUsesScope conditions = false) :
    allHold scope e conditions = allHold other e conditions := by
  cases conditions with
  | nil => rfl
  | cons s rest =>
      rw [someUsesScope, Bool.or_eq_false_iff] at hPlain
      rw [allHold, allHold]
      rw [Simple.holds_congr e s hPlain.1]
      rw [allHold_congr e rest hPlain.2]

/- A chain that does not speak of the scope matches in any. -/
theorem Chain.holds_congr
    (e : Element)
    (chain : Chain)
    (hPlain : chain.usesScope = false) :
    chain.holds scope e = chain.holds other e := by
  cases chain with
  | single conditions =>
      exact allHold_congr e conditions hPlain
  | step left c conditions =>
      rw [Chain.usesScope, Bool.or_eq_false_iff] at hPlain
      have hLeft : ∀ a, left.holds scope a = left.holds other a :=
        fun a => Chain.holds_congr a left hPlain.1
      have hHere := allHold_congr e conditions hPlain.2
      simp only [Chain.holds, hHere, hLeft]

/- Chains that do not speak of the scope match in any. -/
theorem anyHolds_congr
    (e : Element)
    (chains : List Chain)
    (hPlain : anyUsesScope chains = false) :
    anyHolds scope e chains = anyHolds other e chains := by
  cases chains with
  | nil => rfl
  | cons chain rest =>
      rw [anyUsesScope, Bool.or_eq_false_iff] at hPlain
      rw [anyHolds, anyHolds]
      rw [Chain.holds_congr e chain hPlain.1]
      rw [anyHolds_congr e rest hPlain.2]

end

------------------------------------------------------------
-- Labels
------------------------------------------------------------

/- The label is a selector that does not speak of the scope. -/
def IsPlain (label : String) : Prop :=
  ∃ chains, parse? label = some chains ∧ anyUsesScope chains = false

/- The token is part of no bracket. -/
def Token.isFlat : Token → Bool
  | .function _ | .openSquare => false
  | _ => true

/- Tokens outside all brackets are parts as they are. -/
theorem gather_of_isFlat
    {tokens : List Token}
    (hFlat : ∀ t ∈ tokens, t.isFlat = true)
    (pile : Pile) :
    gather [] pile tokens = some (pile.reverse ++ tokens.map .token) := by
  induction tokens generalizing pile with
  | nil => simp [gather]
  | cons t tokens ih =>
      rw [List.forall_mem_cons] at hFlat
      rcases hFlat with ⟨hHere, hRest⟩
      have hNext := ih hRest (.token t :: pile)
      rw [List.reverse_cons, List.append_assoc] at hNext
      cases t with
      | function | openSquare => cases hHere
      | _ =>
          rw [gather]
          · exact hNext
          all_goals simp

/- A selector without brackets is read from its tokens. -/
theorem parse?_of_isFlat
    {label : String}
    (hFlat : ∀ t ∈ tokenize label, t.isFlat = true) :
    parse? label = readList ((tokenize label).map .token) := by
  rw [parse?, gather_of_isFlat hFlat]
  rfl

/- A lone name is a selector. -/
theorem parse?_of_tokenize_eq
    {label : String}
    (hName : tokenize label = [.ident label]) :
    parse? label = some [.single [.name label]] := by
  rw [parse?_of_isFlat (by simp [hName, Token.isFlat]), hName]
  rfl

end Css

end Gleaner
