import Gleaner.Proofs.Selector.Balance
import Gleaner.Proofs.Selector.Mapping
import Gleaner.Proofs.Text.Pieces
import Mathlib.Data.List.Induction

/-
  Which marks of a level are taken out.  The marks go where the
  count of open brackets is zero, and a text is cut where nothing
  is open; the two agree where the brackets in quotes are in order.

  Main declarations:
    * `Selector.withoutTopMarks`
    * `Selector.depthOf`
    * `Selector.IsCalm`
    * `Selector.withoutMarks_eq_iff`
    * `Selector.counts_of_run`
    * `Selector.depthOf_eq_zero_iff`
    * `Selector.stripMapping_removes`
-/

namespace Gleaner

namespace Selector

open Nesting

------------------------------------------------------------
-- Texts Without Marks
------------------------------------------------------------

/-
  A text without the marks in front of which `goes` holds of all
  that stands before them, where `front` stands before the text.
-/
def withoutMarks
    (goes : List Char → Bool)
    (front : List Char) :
    List Char → List Char
  | [] => []
  | c :: rest =>
      if c = '^' ∧ goes front = true then
        withoutMarks goes (front ++ [c]) rest
      else c :: withoutMarks goes (front ++ [c]) rest

/- A text without the marks outside all brackets and quotes. -/
def withoutTopMarks (cs : List Char) : List Char :=
  withoutMarks isBalanced [] cs

/- The count of open brackets behind a text.  Quotes do not matter. -/
def depthFrom (depth : Nat) (cs : List Char) : Nat :=
  cs.foldl depthAfter depth

/- The count of open brackets behind a text, from its start. -/
def depthOf (cs : List Char) : Nat :=
  depthFrom 0 cs

/- A quoted text of a text. -/
def IsQuotedIn (text cs : List Char) : Prop :=
  ∃ front q back due, cs = front ++ q :: (text ++ q :: back) ∧
    Nesting.closed.run front = some ⟨none, due⟩ ∧
    isQuote q = true ∧ q ∉ text

/-
  A quoted text that leaves the count of open brackets as it is,
  and from which no mark would be taken out.
-/
structure IsCalm (text : List Char) : Prop where
  level : ∀ depth, depthFrom depth text = depth
  unmarked : (stripMapping 0 text).1 = false

------------------------------------------------------------
-- The Marks That Are Taken Out
------------------------------------------------------------

variable {cs front : List Char}

/- The count behind one character more. -/
theorem depthFrom_concat (depth : Nat) (cs : List Char) (c : Char) :
    depthFrom depth (cs ++ [c]) = depthAfter (depthFrom depth cs) c := by
  rw [depthFrom, List.foldl_concat]
  rfl

/- A text is read on from where its start has led. -/
theorem depthFrom_append (depth : Nat) (cs ds : List Char) :
    depthFrom depth (cs ++ ds) = depthFrom (depthFrom depth cs) ds := by
  rw [depthFrom, List.foldl_append]
  rfl

/- The marks that go are those where the count is zero. -/
theorem kept_eq_withoutMarks (front cs : List Char) :
    (stripMapping (depthOf front) cs).2 =
      withoutMarks (fun early => depthOf early == 0) front cs := by
  induction cs generalizing front with
  | nil => rfl
  | cons c cs ih =>
      have hNext : depthOf (front ++ [c]) = depthAfter (depthOf front) c :=
        depthFrom_concat 0 front c
      rw [stripMapping_cons, withoutMarks, ← ih, hNext]
      simp only [beq_iff_eq]
      split
      · rename_i hGoes
        rw [hGoes.1, hGoes.2]
        rfl
      · rfl

/- What is kept is no longer than the text, and shorter after a find. -/
theorem length_kept (depth : Nat) (cs : List Char) :
    (stripMapping depth cs).2.length ≤ cs.length ∧
      ((stripMapping depth cs).1 = true →
        (stripMapping depth cs).2.length < cs.length) := by
  induction cs generalizing depth with
  | nil => simp [stripMapping]
  | cons c cs ih =>
      rw [stripMapping_cons]
      split
      · have hRest := (ih 0).1
        simp only [List.length_cons]
        omega
      · rcases ih (depthAfter depth c) with ⟨hLe, hLt⟩
        simp only [List.length_cons]
        exact ⟨by omega, fun hFound => by have := hLt hFound; omega⟩

/- A mark is found exactly if something is taken out. -/
theorem found_iff (depth : Nat) (cs : List Char) :
    (stripMapping depth cs).1 = true ↔ (stripMapping depth cs).2 ≠ cs := by
  constructor
  · intro hFound hSame
    have hLess := (length_kept depth cs).2 hFound
    rw [hSame] at hLess
    omega
  · intro hOther
    by_contra hNone
    rw [Bool.not_eq_true] at hNone
    exact hOther (congrArg Prod.snd (stripMapping_of_not_found hNone))

------------------------------------------------------------
-- Two Ways to Take Out Marks
------------------------------------------------------------

/- A mark does not change what goes. -/
def IsSteady (goes : List Char → Bool) : Prop :=
  ∀ front, goes (front ++ ['^']) = goes front

/- A mark does not change the count. -/
theorem isSteady_depthOf : IsSteady fun early => depthOf early == 0 := by
  intro front
  have hSame : depthOf (front ++ ['^']) = depthOf front :=
    depthFrom_concat 0 front '^'
  simp only [hSame]

/- Reading keeps only quotes as ends of quotes. -/
theorem isSound_run
    {n m : Nesting}
    (hSound : n.IsSound)
    (hRun : n.run cs = some m) :
    m.IsSound := by
  induction cs generalizing n with
  | nil =>
      cases hRun
      exact hSound
  | cons c cs ih =>
      rw [run] at hRun
      split at hRun
      · rename_i k hStep
        exact ih (isSound_step hSound hStep) hRun
      · cases hRun

/- A mark does not change what is open. -/
theorem isSteady_isBalanced : IsSteady isBalanced := by
  intro front
  rw [isBalanced, isBalanced, run_append]
  cases hRun : Nesting.closed.run front with
  | none => rfl
  | some n =>
      have hSound := isSound_run isSound_closed hRun
      rw [Option.bind_some, run, step_of_isPlain hSound (by decide)]
      rfl

/- Where marks go, the text that is left begins with none. -/
theorem head?_withoutMarks
    {goes : List Char → Bool}
    (hSteady : IsSteady goes)
    (hGoes : goes front = true) :
    (withoutMarks goes front cs).head? ≠ some '^' := by
  induction cs generalizing front with
  | nil => simp [withoutMarks]
  | cons c cs ih =>
      rw [withoutMarks]
      split
      · rename_i hMark
        rw [hMark.1]
        exact ih ((hSteady front).trans hGoes)
      · rename_i hStays
        intro hHead
        exact hStays ⟨Option.some.inj hHead, hGoes⟩

/- A mark that goes in one way and stays in another tells the two apart. -/
theorem withoutMarks_ne
    {goes leaves : List Char → Bool}
    (hSteady : IsSteady goes)
    (hGoes : goes front = true)
    (hLeaves : leaves front = false) :
    withoutMarks goes front ('^' :: cs) ≠
      withoutMarks leaves front ('^' :: cs) := by
  rw [withoutMarks, withoutMarks, if_pos ⟨rfl, hGoes⟩,
    if_neg (by simp [hLeaves])]
  have hHead :
      (withoutMarks goes (front ++ ['^']) cs).head? ≠ some '^' :=
    head?_withoutMarks hSteady ((hSteady front).trans hGoes)
  intro hSame
  rw [hSame] at hHead
  exact hHead rfl

/- What holds in front of all marks holds before and behind one character. -/
theorem forall_mark_cons_iff
    {P : List Char → Prop}
    {c : Char} :
    (∀ early late, c :: cs = early ++ '^' :: late → P early) ↔
      (c = '^' → P []) ∧
        ∀ early late, cs = early ++ '^' :: late → P (c :: early) := by
  constructor
  · intro hAll
    refine ⟨?_, ?_⟩
    · rintro rfl
      exact hAll [] cs rfl
    · rintro early late rfl
      exact hAll (c :: early) late rfl
  · rintro ⟨hHere, hRest⟩ early late hSame
    cases early with
    | nil =>
        cases hSame
        exact hHere rfl
    | cons d early =>
        cases hSame
        exact hRest early late rfl

/-
  Two ways to take out marks give the same text exactly if they
  take out the same marks: in a row of marks all go or none.
-/
theorem withoutMarks_eq_iff
    {goes leaves : List Char → Bool}
    (hGoes : IsSteady goes)
    (hLeaves : IsSteady leaves) :
    withoutMarks goes front cs = withoutMarks leaves front cs ↔
      ∀ early late, cs = early ++ '^' :: late →
        goes (front ++ early) = leaves (front ++ early) := by
  induction cs generalizing front with
  | nil => simp [withoutMarks]
  | cons c cs ih =>
      have hRest := @ih (front ++ [c])
      simp only [List.append_assoc, List.singleton_append] at hRest
      rw [forall_mark_cons_iff, List.append_nil, ← hRest]
      by_cases hMark : c = '^'
      · subst hMark
        cases hLeft : goes front with
        | true =>
            cases hRight : leaves front with
            | true => simp [withoutMarks, hLeft, hRight]
            | false =>
                simp [withoutMarks_ne hGoes hLeft hRight]
        | false =>
            cases hRight : leaves front with
            | true =>
                simp [(withoutMarks_ne hLeaves hRight hLeft).symm]
            | false => simp [withoutMarks, hLeft, hRight]
      · simp [withoutMarks, hMark]

------------------------------------------------------------
-- The Count and What Is Open
------------------------------------------------------------

/- An opening bracket counts up. -/
theorem depthAfter_opener
    {c d : Char}
    (hOpener : closerOf? c = some d)
    (depth : Nat) :
    depthAfter depth c = depth + 1 := by
  unfold closerOf? at hOpener
  split at hOpener <;> first | rfl | cases hOpener

/- A closing bracket counts down. -/
theorem depthAfter_closer
    {c : Char}
    (hCloser : isCloser c = true)
    (depth : Nat) :
    depthAfter depth c = depth - 1 := by
  simp only [isCloser, Bool.or_eq_true, beq_iff_eq] at hCloser
  rcases hCloser with (rfl | rfl) | rfl <;> rfl

/- No other character counts. -/
theorem depthAfter_other
    {c : Char}
    (hOpener : closerOf? c = none)
    (hCloser : isCloser c = false)
    (depth : Nat) :
    depthAfter depth c = depth := by
  unfold closerOf? at hOpener
  split at hOpener
  · cases hOpener
  · cases hOpener
  · cases hOpener
  · rename_i hBrace hParen hSquare
    have hOthers : c ≠ '{' ∧ c ≠ '(' ∧ c ≠ '[' :=
      ⟨hBrace, hParen, hSquare⟩
    simp only [isCloser, Bool.or_eq_false_iff, beq_eq_false_iff_ne]
      at hCloser
    simp [depthAfter, hOthers, hCloser]

/- A quote does not count. -/
theorem depthAfter_quote
    {q : Char}
    (hQuote : isQuote q = true)
    (depth : Nat) :
    depthAfter depth q = depth := by
  simp only [isQuote, Bool.or_eq_true, beq_iff_eq] at hQuote
  rcases hQuote with rfl | rfl <;> rfl

/- A quoted text is counted on from the count in front of its quote. -/
theorem depthOf_quoted
    {q : Char}
    (hQuote : isQuote q = true)
    {early text : List Char} :
    depthOf (early ++ q :: text) = depthFrom (depthOf early) text := by
  have hSame : depthOf (early ++ [q]) = depthOf early := by
    rw [depthOf, depthFrom_concat, depthAfter_quote hQuote]
    rfl
  rw [List.append_cons, depthOf, depthFrom_append, ← depthOf, hSame]

/- A text counts no less from a higher start. -/
theorem depthFrom_mono
    {low high : Nat}
    (hLe : low ≤ high)
    (cs : List Char) :
    depthFrom low cs ≤ depthFrom high cs := by
  induction cs generalizing low high with
  | nil => exact hLe
  | cons c cs ih =>
      have hStep : depthAfter low c ≤ depthAfter high c := by
        unfold depthAfter
        split
        · omega
        · split <;> omega
      exact ih hStep

/- In front of a mark that stays some bracket is counted as open. -/
theorem depthFrom_ne_zero
    {depth : Nat}
    {early late : List Char}
    (hNone : (stripMapping depth (early ++ '^' :: late)).1 = false) :
    depthFrom depth early ≠ 0 := by
  induction early generalizing depth with
  | nil =>
      rintro rfl
      rw [List.nil_append, stripMapping_cons, if_pos ⟨rfl, rfl⟩] at hNone
      cases hNone
  | cons c early ih =>
      rw [List.cons_append, stripMapping_cons] at hNone
      split at hNone
      · cases hNone
      · exact ih hNone

/- A quoted text of a start is one of the whole. -/
theorem IsQuotedIn.append
    {text : List Char}
    (hQuoted : IsQuotedIn text cs)
    (ds : List Char) :
    IsQuotedIn text (cs ++ ds) := by
  rcases hQuoted with ⟨front, q, back, due, rfl, hRun, hQuote, hText⟩
  exact ⟨front, q, back ++ ds, due, by simp, hRun, hQuote, hText⟩

/-
  Outside quotes the count is the number of brackets that are due;
  inside quotes it was that number in front of the quote.
-/
structure Counts (front : List Char) (n : Nesting) : Prop where
  outside : n.quote = none → depthOf front = n.due.length
  quoted : ∀ q, n.quote = some q →
    ∃ early text, front = early ++ q :: text ∧
      isQuote q = true ∧ q ∉ text ∧
      Nesting.closed.run early = some ⟨none, n.due⟩ ∧
      depthOf early = n.due.length

/- One character keeps the count, if a quoted text that ends is calm. -/
theorem Counts.step
    {n m : Nesting}
    {c : Char}
    (hCounts : Counts front n)
    (hRun : Nesting.closed.run front = some n)
    (hStep : n.step c = some m)
    (hCalm : ∀ text, IsQuotedIn text (front ++ [c]) → IsCalm text) :
    Counts (front ++ [c]) m := by
  have hNext : depthOf (front ++ [c]) = depthAfter (depthOf front) c :=
    depthFrom_concat 0 front c
  rcases step_cases hStep with
    ⟨q, due, rfl, rfl⟩ | ⟨due, rfl, hQuote, rfl⟩ |
    ⟨d, due, rfl, hOpener, rfl⟩ | ⟨due, rfl, hCloser, rfl⟩ |
    ⟨due, rfl, hPlain, rfl⟩
  · rcases hCounts.quoted q rfl with
      ⟨early, text, rfl, hQuote, hText, hEarly, hDepth⟩
    by_cases hEnd : c = q
    · subst hEnd
      simp only [beq_self_eq_true, if_true]
      have hLevel : depthFrom due.length text = due.length := by
        apply (hCalm text _).level
        exact ⟨early, c, [], due, by simp, hEarly, hQuote, hText⟩
      refine ⟨fun _ => ?_, fun _ hOpen => nomatch hOpen⟩
      rw [hNext, depthAfter_quote hQuote, depthOf_quoted hQuote, hDepth,
        hLevel]
    · have hDiffers : (c == q) = false := by
        rw [beq_eq_false_iff_ne]
        exact hEnd
      simp only [hDiffers, Bool.false_eq_true, if_false]
      refine ⟨fun hClosed => absurd hClosed (Option.some_ne_none _), ?_⟩
      intro r hr
      cases hr
      refine ⟨early, text ++ [c], by simp, hQuote, ?_, hEarly, hDepth⟩
      simp [hText, Ne.symm hEnd]
  · refine ⟨fun hClosed => absurd hClosed (Option.some_ne_none _), ?_⟩
    intro q hq
    cases hq
    exact ⟨front, [], rfl, hQuote, List.not_mem_nil, hRun,
      hCounts.outside rfl⟩
  · refine ⟨fun _ => ?_, fun _ hOpen => nomatch hOpen⟩
    rw [hNext, depthAfter_opener hOpener, hCounts.outside rfl]
    rfl
  · refine ⟨fun _ => ?_, fun _ hOpen => nomatch hOpen⟩
    rw [hNext, depthAfter_closer hCloser, hCounts.outside rfl]
    rfl
  · refine ⟨fun _ => ?_, fun _ hOpen => nomatch hOpen⟩
    simp only [isPlain, Bool.and_eq_true, Bool.not_eq_true',
      Option.isNone_iff_eq_none] at hPlain
    rw [hNext, depthAfter_other hPlain.1.2 hPlain.2, hCounts.outside rfl]

/- The count is kept over a whole text with calm quoted texts. -/
theorem counts_of_run
    {n : Nesting}
    (hRun : Nesting.closed.run front = some n)
    (hCalm : ∀ text, IsQuotedIn text front → IsCalm text) :
    Counts front n := by
  induction front using List.reverseRec generalizing n with
  | nil =>
      cases hRun
      exact ⟨fun _ => rfl, fun _ hOpen => nomatch hOpen⟩
  | append_singleton front c ih =>
      rw [run_append] at hRun
      rcases Option.bind_eq_some_iff.mp hRun with ⟨m, hFront, hLast⟩
      rw [run] at hLast
      cases hStep : m.step c with
      | none =>
          rw [hStep] at hLast
          cases hLast
      | some k =>
          rw [hStep] at hLast
          cases hLast
          have hCounts := ih hFront fun text hQuoted =>
            hCalm text (hQuoted.append [c])
          exact hCounts.step hFront hStep hCalm

/-
  In a balanced text with calm quoted texts the count in front of a
  mark is zero exactly if nothing is open there.
-/
theorem depthOf_eq_zero_iff
    {back : List Char}
    (hBalanced : Balanced (front ++ '^' :: back))
    (hCalm : ∀ text, IsQuotedIn text (front ++ '^' :: back) →
      IsCalm text) :
    depthOf front = 0 ↔ Balanced front := by
  have hWhole := run_closed_iff.mpr hBalanced
  rw [run_append] at hWhole
  rcases Option.bind_eq_some_iff.mp hWhole with ⟨n, hFront, hBack⟩
  have hCounts := counts_of_run hFront fun text hQuoted =>
    hCalm text (hQuoted.append _)
  rw [← run_closed_iff, hFront, Option.some.injEq]
  rcases n with ⟨quote, due⟩
  cases quote with
  | none =>
      rw [hCounts.outside rfl]
      simp [closed]
  | some q =>
      rcases hCounts.quoted q rfl with
        ⟨early, text, rfl, hQuote, hText, hEarly, hDepth⟩
      -- the mark is in a quoted text, which ends behind it
      rcases (closes_of_run _).2 q due hBack with
        ⟨more, rest, hMore, hMoreText, _⟩
      cases more with
      | nil =>
          cases hMore
          cases hQuote
      | cons d more =>
          rw [List.cons_append, List.cons.injEq] at hMore
          rcases hMore with ⟨rfl, rfl⟩
          have hInside : IsCalm (text ++ '^' :: more) := by
            apply hCalm
            refine ⟨early, q, rest, due, by simp, hEarly, hQuote, ?_⟩
            rw [List.mem_append, not_or]
            exact ⟨hText, hMoreText⟩
          have hSome := depthFrom_ne_zero hInside.unmarked
          have hLe := depthFrom_mono (Nat.zero_le due.length) text
          rw [depthOf_quoted hQuote, hDepth]
          simp only [closed, Nesting.mk.injEq, reduceCtorEq, false_and,
            iff_false]
          omega

------------------------------------------------------------
-- The Quoted Text between Two Quotes
------------------------------------------------------------

/- The first quote of a text stands at one place. -/
theorem eq_of_first_quote
    {front front' back back' : List Char}
    {q r : Char}
    (hQuote : isQuote q = true)
    (hQuote' : isQuote r = true)
    (hFront : ∀ c ∈ front, isQuote c = false)
    (hFront' : ∀ c ∈ front', isQuote c = false)
    (hSame : front ++ q :: back = front' ++ r :: back') :
    front = front' ∧ q = r ∧ back = back' := by
  have hTaken : ∀ (start rest : List Char) (p : Char),
      isQuote p = true → (∀ c ∈ start, isQuote c = false) →
        (start ++ p :: rest).takeWhile (!isQuote ·) = start := by
    intro start rest p hp hStart
    apply Text.takeWhile_append_of_stop
    · simpa using hStart
    · simpa using hp
  have hStart : front = front' := by
    rw [← hTaken front back q hQuote hFront, hSame,
      hTaken front' back' r hQuote' hFront']
  subst hStart
  rw [List.append_cancel_left_eq, List.cons.injEq] at hSame
  exact ⟨rfl, hSame⟩

/- A text with two quotes has one quoted text. -/
theorem IsQuotedIn.eq_of_two_quotes
    {front back text inside : List Char}
    (q : Char)
    (hQuoted : IsQuotedIn text (front ++ q :: (inside ++ q :: back)))
    (hQuote : isQuote q = true)
    (hFront : front.countP isQuote = 0)
    (hInside : inside.countP isQuote = 0)
    (hBack : back.countP isQuote = 0) :
    text = inside := by
  rcases hQuoted with ⟨front', r, back', due, hSame, _, hQuote', _⟩
  have hCount := congrArg (List.countP isQuote) hSame
  simp only [List.countP_append, List.countP_cons, hQuote, hQuote',
    hFront, hInside, hBack, if_true] at hCount
  have hFront' : front'.countP isQuote = 0 := by omega
  have hText : text.countP isQuote = 0 := by omega
  simp only [List.countP_eq_zero, Bool.not_eq_true]
    at hFront hInside hFront' hText
  rcases eq_of_first_quote hQuote hQuote' hFront hFront' hSame with
    ⟨_, rfl, hRest⟩
  exact (eq_of_first_quote hQuote hQuote hInside hText hRest).1.symm

------------------------------------------------------------
-- Marks at the Top Level
------------------------------------------------------------

/-
  A mark is reported exactly if one is taken out, and nothing but
  marks is taken out.  What is left is the text without the marks
  outside brackets and quotes exactly if the count of brackets is
  zero in front of these marks and of no other; and so it is if the
  text is balanced and its quoted texts are calm.
-/
theorem stripMapping_removes (cs : List Char) :
    ((stripMapping 0 cs).1 = true ↔ (stripMapping 0 cs).2 ≠ cs) ∧
    (stripMapping 0 cs).2.filter (· != '^') = cs.filter (· != '^') ∧
    ((stripMapping 0 cs).2 = withoutTopMarks cs ↔
      ∀ front back, cs = front ++ '^' :: back →
        (depthOf front = 0 ↔ Balanced front)) ∧
    (Balanced cs → (∀ text, IsQuotedIn text cs → IsCalm text) →
      (stripMapping 0 cs).2 = withoutTopMarks cs) := by
  have hExact :
      (stripMapping 0 cs).2 = withoutTopMarks cs ↔
        ∀ front back, cs = front ++ '^' :: back →
          (depthOf front = 0 ↔ Balanced front) := by
    have hKept := kept_eq_withoutMarks [] cs
    have hStart : depthOf [] = 0 := rfl
    rw [hStart] at hKept
    rw [hKept, withoutTopMarks,
      withoutMarks_eq_iff isSteady_depthOf isSteady_isBalanced]
    refine forall₂_congr fun front back => imp_congr_right fun _ => ?_
    rw [List.nil_append, Bool.eq_iff_iff, beq_iff_eq, isBalanced_iff]
  refine ⟨found_iff 0 cs, filter_stripMapping (by decide) 0 cs, hExact, ?_⟩
  intro hBalanced hCalm
  rw [hExact]
  rintro front back rfl
  exact depthOf_eq_zero_iff hBalanced hCalm

/- Brackets in quotes may be closed there, with marks between. -/
theorem stripMapping_removes_sample :
    Balanced "a[href^='x(^)']^|b".toList ∧
      (stripMapping 0 "a[href^='x(^)']^|b".toList).2 =
        withoutTopMarks "a[href^='x(^)']^|b".toList ∧
      withoutTopMarks "a[href^='x(^)']^|b".toList =
        "a[href^='x(^)']|b".toList := by
  have hBalanced : Balanced "a[href^='x(^)']^|b".toList :=
    isBalanced_iff.mp (by decide)
  have hCalm : IsCalm "x(^)".toList := ⟨fun _ => rfl, by decide⟩
  refine ⟨hBalanced, ?_, by decide⟩
  refine (stripMapping_removes _).2.2.2 hBalanced fun text hQuoted => ?_
  have hHere : IsQuotedIn text
      ("a[href^=".toList ++
        '\'' :: ("x(^)".toList ++ '\'' :: "]^|b".toList)) :=
    hQuoted
  rw [hHere.eq_of_two_quotes '\'' (by decide) (by decide) (by decide)
    (by decide)]
  exact hCalm

/-
  A quoted closing bracket ends the count of one that is open, so
  that a mark inside goes; a quoted opening bracket hides a mark at
  the top level.
-/
theorem quoted_bracket_misleads :
    (Balanced "a[title=']^']".toList ∧
      withoutTopMarks "a[title=']^']".toList = "a[title=']^']".toList ∧
      stripMapping 0 "a[title=']^']".toList =
        (true, "a[title=']']".toList)) ∧
    (Balanced "a[title='[']^".toList ∧
      withoutTopMarks "a[title='[']^".toList = "a[title='[']".toList ∧
      stripMapping 0 "a[title='[']^".toList =
        (false, "a[title='[']^".toList)) :=
  ⟨⟨isBalanced_iff.mp (by decide), by decide, by decide⟩,
    isBalanced_iff.mp (by decide), by decide, by decide⟩

end Selector

end Gleaner
