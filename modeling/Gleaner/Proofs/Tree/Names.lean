import Gleaner.Proofs.Css.Scope
import Gleaner.Proofs.Tree.Cursor

/-
  Labels that are the name of an element: they lead to all the
  elements below that have the name.

  Main declarations:
    * `Css.select_name`
    * `Markup.Element.named`
    * `Markup.Element.resolvePath_name`
    * `Markup.Element.resolve_name`
-/

namespace Gleaner

/- A name matches the elements that have it. -/
theorem Css.select_name
    (name : String)
    (e : Markup.Element) :
    Css.select [.single [.name name]] e =
      e.below.filter fun d => d.tag.name == Css.nameOn d.tag name := by
  simp only [Css.select, Css.anyHolds, Css.Chain.holds, Css.allHold,
    Css.Simple.holds, Bool.and_true, Bool.or_false]

namespace Markup

namespace Element

/- The elements below an element that have a name and are not blank. -/
def named (e : Element) (name : String) : List Element :=
  Cursor.keepNew []
    (e.below.filter fun d => d.tag.name == Css.nameOn d.tag name)

section

variable {root : Element} {name : String}
variable (hName : Css.tokenize name = [.ident name])
variable (hFilled : root.isBlank = false)

include hName hFilled

/- A path that is a name leads to the elements that have it. -/
theorem resolvePath_name :
    Cursor.resolvePath [root] [name] = root.named name := by
  have hRead : ∀ e : Element, Cursor.select e name =
      .ok (Css.select [.single [.name name]] e) :=
    Element.select_of_parse? (Css.parse?_of_tokenize_eq hName)
  have hHere : [root].filter (!Cursor.isEmpty ·) = [root] := by
    have hKept : (!root.isBlank) = true := by rw [hFilled, Bool.not_false]
    exact List.filter_cons_of_pos hKept
  rw [Cursor.resolvePath, hHere, List.foldl_cons, List.foldl_nil,
    Cursor.narrow_of_select hRead, List.flatMap_singleton,
    Css.select_name, named]

/- An expression that is a name finds the elements that have it. -/
theorem resolve_name (source : String) :
    (⟨source, [], ⟨[name], none⟩⟩ : Selector).resolve root =
      (root.named name).map fun e => ⟨.node e, .outside⟩ := by
  rw [← resolvePath_name hName hFilled]
  rfl

end

end Element

end Markup

end Gleaner
