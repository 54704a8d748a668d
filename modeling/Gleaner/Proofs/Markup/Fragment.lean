import Gleaner.Markup.Media
import Gleaner.Proofs.Markup.Nesting

/-
  A fragment is read from its start to its end.

  Main declarations:
    * `Markup.stands_inFragment`
    * `Markup.alike_parseFragment`
-/

namespace Gleaner

namespace Markup

open Build

/- The outermost element of a fragment. -/
def fragmentRoot : Tag :=
  ⟨.html, "html", []⟩

/- A fragment stands inside the outermost element. -/
theorem stands_inFragment :
    Stands Builder.inFragment .body [⟨fragmentRoot, []⟩] := by
  have hCells : Builder.inFragment.arena.cells =
      #[⟨.document, none, [1]⟩, ⟨.element fragmentRoot, some 0, []⟩] := by
    rfl
  have hSpine : Spine Builder.inFragment.arena [1] [⟨fragmentRoot, []⟩] := by
    refine .intro ?_ ?_ (.document (by decide) ?_)
    · simp [Arena.cell, hCells]
    · simp only [Arena.cell, Arena.size, hCells]
      exact .nil (by decide)
    · simp [Arena.cell, hCells]
  refine ⟨hSpine, .skip (by decide) .nil, ?_, rfl, rfl, rfl, rfl, rfl, rfl,
    rfl⟩
  simp [fragmentRoot]

/- The end of a text changes nothing. -/
theorem Stands.run_end
    {b : Builder}
    {level : Level}
    {levels : List Level}
    (h : Stands b .body (level :: levels)) :
    (receive .eof).run b = ((), { b with skipNewline := false }) := by
  have hFree : Stands { b with skipNewline := false } .body
      (level :: levels) :=
    h.unskipped
  have hReceive : (receive .eof).run b =
      (consume .eof).run { b with skipNewline := false } := rfl
  rw [hReceive]
  apply hFree.consume_of_rules
  change (Rules.inBody .eof).run { b with skipNewline := false } = _
  rw [Rules.inBody, run_bind, run_get]
  simp only [h.templates]
  rfl

/- The finished tree shows the nodes of the levels. -/
theorem Stands.alike_document
    {b : Builder}
    {phase : Phase}
    {levels : List Level}
    (h : Stands b phase levels) :
    Node.Alike b.document.children (closed levels) := by
  rcases h.spine.alike_nodesBelow with ⟨id, tag, hRoot, hTag, hAlike⟩
  have hChildren : b.document.children = b.arena.nodesBelow id := by
    simp [Builder.document, hRoot, hTag]
  rw [hChildren]
  exact hAlike

theorem normalizeLines_eq_self
    {cs : List Char}
    (hNone : '\r' ∉ cs) :
    normalizeLines cs = cs := by
  induction cs with
  | nil => rfl
  | cons c cs ih =>
      rw [List.mem_cons, not_or] at hNone
      rw [normalizeLines, ih hNone.2]
      · rintro rest rfl
        exact absurd rfl hNone.1
      · rintro rfl
        exact absurd rfl hNone.1

theorem dropMark_eq_self
    {cs : List Char}
    (hNone : '\uFEFF' ∉ cs) :
    dropMark cs = cs := by
  unfold dropMark
  split
  · exact absurd List.mem_cons_self hNone
  · rfl

/- What a reader comes to at the end of a fragment is its tree. -/
theorem alike_parseFragment
    {cs : List Char}
    {c : Builder}
    {levels : List Level}
    (hReturn : '\r' ∉ cs)
    (hMark : '\uFEFF' ∉ cs)
    (hReads : Reads Builder.inFragment cs c [])
    (h : Stands c .body levels) :
    Node.Alike (parseFragment (String.ofList cs)).children
      (closed levels) := by
  obtain ⟨level, levels, rfl⟩ : ∃ l ls, levels = l :: ls := by
    cases levels with
    | nil => cases h.root
    | cons l ls => exact ⟨l, ls, rfl⟩
  rcases hReads (cs.length + 1) (by omega) with ⟨left, hLeft, hRun⟩
  obtain ⟨left, rfl⟩ : ∃ n, left = n + 1 := ⟨left - 1, by
    simp only [List.length_nil] at hLeft
    omega⟩
  have hEnd : run .inFragment (String.ofList cs) =
      { c with skipNewline := false } := by
    rw [run]
    simp only [String.toList_ofList, dropMark_eq_self hMark,
      normalizeLines_eq_self hReturn, hRun, runWithin, h.run_end]
  rw [parseFragment, hEnd]
  exact h.unskipped.alike_document

/- What stands in a `noscript` is read as raw text, but not written so. -/
example :
    let nodes := [Node.element ⟨.html, "noscript", []⟩ [.text "<b>"]]
    let markup := "<noscript>&lt;b&gt;</noscript>"
    Node.nestsAll [] nodes = false ∧ innerMarkup nodes = markup.toList ∧
      Node.textContentAll (parseFragment markup).children =
        "&lt;b&gt;".toList := by
  decide +kernel

end Markup

end Gleaner
