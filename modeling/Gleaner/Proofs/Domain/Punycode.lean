import Gleaner.Domain.Punycode
import Mathlib.Data.List.Basic
import Mathlib.Tactic.Ring

/-
  The plain form of a text is read back as the text.  Writing
  passes over the characters in the order of their code points,
  and a reader of the digits so far holds just the characters
  that were written, in their order.

  Main declarations:
    * `Punycode.digit_ne_dash`
    * `Punycode.run_digits`
    * `Punycode.IsSynced`
    * `Punycode.IsSynced.pass`
    * `Punycode.IsSynced.run`
    * `Punycode.decode?_encode`
    * `Punycode.mem_encode`
-/

namespace Gleaner

namespace Punycode

------------------------------------------------------------
-- Digits
------------------------------------------------------------

/- The digits are small letters and the digits of base ten. -/
theorem toNat_digit
    {n : Nat}
    (hn : n < 36) :
    (digit n).toNat = if n < 26 then 97 + n else 22 + n := by
  have hAll : ∀ n < 36,
      (digit n).toNat = if n < 26 then 97 + n else 22 + n := by
    decide
  exact hAll n hn

/- A digit has its value. -/
theorem digitValue?_digit
    {n : Nat}
    (hn : n < 36) :
    digitValue? (digit n) = some n := by
  have hAll : ∀ n < 36, digitValue? (digit n) = some n := by
    decide
  exact hAll n hn

/- All digits of a distance have a value. -/
theorem mem_digits
    {bias place delta : Nat}
    {c : Char}
    (hc : c ∈ digits bias place delta) :
    ∃ n < 36, c = digit n := by
  have hLow := one_le_threshold bias place
  have hHigh := threshold_le bias place
  fun_induction digits bias place delta with
  | case1 place delta t hLast =>
      have hMem := List.mem_singleton.mp hc
      exact ⟨delta, by omega, hMem⟩
  | case2 place delta t hMore ih =>
      rcases List.mem_cons.mp hc with rfl | hRest
      · have hMod := Nat.mod_lt (delta - t) (show 0 < 36 - t by omega)
        exact ⟨_, by omega, rfl⟩
      · exact ih hRest (one_le_threshold _ _) (threshold_le _ _)

/-
  The digits of a distance are read as that distance, whatever
  follows them.
-/
theorem run_digits
    (r : Reading)
    (delta weight place distance : Nat)
    (rest : List Char) :
    r.run delta weight place
        (digits r.bias place distance ++ rest) =
      match r.put? (delta + distance * weight) with
      | some next => next.run 0 1 36 rest
      | none => none := by
  have hLow := one_le_threshold r.bias place
  have hHigh := threshold_le r.bias place
  fun_induction digits r.bias place distance generalizing delta weight with
  | case1 place distance t hLast =>
      rw [List.singleton_append, Reading.run,
        digitValue?_digit (by omega)]
      dsimp only
      refine (if_pos hLast).trans ?_
      cases r.put? (delta + distance * weight) with
      | none => rfl
      | some next => rfl
  | case2 place distance t hMore ih =>
      have hMod :=
        Nat.mod_lt (distance - t) (show 0 < 36 - t by omega)
      have hSplit :=
        Nat.mod_add_div (distance - t) (36 - t)
      have hNotLast :
          ¬t + (distance - t) % (36 - t) < t := by
        omega
      have hSum :
          delta + (t + (distance - t) % (36 - t)) * weight +
              (distance - t) / (36 - t) * (weight * (36 - t)) =
            delta + distance * weight := by
        calc
          _ = delta + (t + ((distance - t) % (36 - t) +
                (36 - t) * ((distance - t) / (36 - t)))) * weight := by
              ring
          _ = delta + distance * weight := by
              rw [hSplit, Nat.add_sub_cancel' (by omega)]
      rw [List.cons_append, Reading.run, digitValue?_digit (by omega)]
      dsimp only
      rw [if_neg hNotLast,
        ih _ _ (one_le_threshold _ _) (threshold_le _ _), hSum]

------------------------------------------------------------
-- Reader and Writer
------------------------------------------------------------

/- The characters with a code point below a bound. -/
def below (n : Nat) (cs : List Char) : List Char :=
  cs.filter (·.toNat < n)

theorem below_append (n : Nat) (front back : List Char) :
    below n (front ++ back) = below n front ++ below n back :=
  List.filter_append front back

/-
  A reader holds what was written: the writer is at code point
  `n`, has passed `before` and has `after` to pass.  The last
  equation says that the reader is as many places behind the
  writer as the distance counts.
-/
structure IsSynced
    (first n : Nat)
    (before after : List Char)
    (w : Writing)
    (r : Reading) : Prop where
  out : r.out = below (n + 1) before ++ below n after
  count : w.count = r.out.length
  bias : w.bias = r.bias
  isFirst : r.isFirst = (w.count == first)
  first_le : first ≤ w.count
  code_le : r.code ≤ n
  distance :
    w.delta + r.place + r.code * (w.count + 1) =
      (below (n + 1) before).length + n * (w.count + 1)

/- A reader becomes another one by reading some digits. -/
def Reads (r : Reading) (more : List Char) (next : Reading) : Prop :=
  ∀ rest, r.run 0 1 36 (more ++ rest) = next.run 0 1 36 rest

/- A writer goes on to another state, and a reader can follow. -/
def Follows (w next : Writing) (r s : Reading) : Prop :=
  ∃ more, next.out = w.out ++ more ∧ Reads r more s

/- Without more digits the reader stays where it is. -/
theorem Follows.of_out_eq
    {w next : Writing}
    (hOut : next.out = w.out)
    (r : Reading) :
    Follows w next r r :=
  ⟨[], by rw [hOut, List.append_nil], fun _ => rfl⟩

theorem Follows.trans
    {u v w : Writing}
    {r s t : Reading}
    (hFirst : Follows u v r s)
    (hSecond : Follows v w s t) :
    Follows u w r t := by
  rcases hFirst with ⟨more, hMore, hReads⟩
  rcases hSecond with ⟨more', hMore', hReads'⟩
  refine ⟨more ++ more', ?_, ?_⟩
  · rw [hMore', hMore, List.append_assoc]
  · intro rest
    rw [List.append_assoc, hReads, hReads']

/- A character of a code point is put behind those in front of it. -/
theorem insertAt_length
    (front back : List Char)
    (c : Char) :
    insertAt front.length c (front ++ back) = front ++ c :: back := by
  rw [insertAt, List.take_left, List.drop_left]

variable {first n : Nat}
variable {before after : List Char}
variable {c : Char}
variable {w : Writing} {r : Reading}

/- The reader that has put the next character in its place. -/
def Reading.behind
    (first : Nat)
    (before : List Char)
    (c : Char)
    (after : List Char)
    (w : Writing) : Reading :=
  { out := below (c.toNat + 1) before ++ c :: below c.toNat after
    code := c.toNat
    place := (below (c.toNat + 1) before).length + 1
    bias := adapt w.delta (w.count + 1) (w.count == first)
    isFirst := false }

/- The digits that are due put the next character in its place. -/
theorem IsSynced.put?_eq
    (hSynced : IsSynced first c.toNat before (c :: after) w r) :
    r.put? w.delta = some (.behind first before c after w) := by
  have hHere : below c.toNat (c :: after) = below c.toNat after := by
    simp [below]
  have hOut := hSynced.out
  rw [hHere] at hOut
  have hSize := congrArg List.length hOut
  rw [List.length_append] at hSize
  have hFits : (below (c.toNat + 1) before).length < r.out.length + 1 := by
    omega
  have hTotal :
      r.place + w.delta =
        (below (c.toNat + 1) before).length +
          (r.out.length + 1) * (c.toNat - r.code) := by
    have hDistance := hSynced.distance
    rw [hSynced.count] at hDistance
    have hSplit :
        c.toNat * (r.out.length + 1) =
          r.code * (r.out.length + 1) +
            (r.out.length + 1) * (c.toNat - r.code) := by
      rw [Nat.mul_comm _ (c.toNat - r.code), ← Nat.add_mul,
        Nat.add_sub_cancel' hSynced.code_le]
    omega
  have hDiv :
      (r.place + w.delta) / (r.out.length + 1) = c.toNat - r.code := by
    rw [hTotal, Nat.add_mul_div_left _ _ (Nat.succ_pos _),
      Nat.div_eq_of_lt hFits, Nat.zero_add]
  have hMod :
      (r.place + w.delta) % (r.out.length + 1) =
        (below (c.toNat + 1) before).length := by
    rw [hTotal, Nat.add_mul_mod_self_left, Nat.mod_eq_of_lt hFits]
  have hCode : r.code + (c.toNat - r.code) = c.toNat :=
    Nat.add_sub_cancel' hSynced.code_le
  have hValid :
      (decide (0x10FFFF < c.toNat) ||
        (decide (0xD800 ≤ c.toNat) && decide (c.toNat ≤ 0xDFFF))) =
          false := by
    have := c.valid
    rw [UInt32.isValidChar, Nat.isValidChar] at this
    simp only [Char.toNat, Bool.or_eq_false_iff, decide_eq_false_iff_not,
      Bool.and_eq_false_iff]
    omega
  simp only [Reading.put?, hDiv, hMod, hCode, hValid, Char.ofNat_toNat]
  rw [if_neg Bool.false_ne_true, hSynced.isFirst, ← hSynced.count, hOut,
    insertAt_length]
  rfl

/- A character that was written before counts as a place. -/
theorem IsSynced.pass_less
    (hSynced : IsSynced first n before (c :: after) w r)
    (hLess : c.toNat < n) :
    IsSynced first n (before ++ [c]) after
      { w with delta := w.delta + 1 } r := by
  have hLast : below (n + 1) [c] = [c] := by
    rw [below, List.filter_cons_of_pos, List.filter_nil]
    exact decide_eq_true (Nat.lt_succ_of_lt hLess)
  have hHere : below n (c :: after) = c :: below n after := by
    simp [below, hLess]
  have hDistance := hSynced.distance
  exact
    { hSynced with
      out := by
        rw [hSynced.out, hHere, below_append, hLast, List.append_assoc,
          List.singleton_append]
      distance := by
        rw [below_append, hLast, List.length_append,
          List.length_singleton]
        dsimp only
        omega }

/- A character that is written now is put in its place. -/
theorem IsSynced.pass_here
    (hSynced : IsSynced first c.toNat before (c :: after) w r) :
    IsSynced first c.toNat (before ++ [c]) after
      { out := w.out ++ digits w.bias 36 w.delta
        delta := 0
        bias := adapt w.delta (w.count + 1) (w.count == first)
        count := w.count + 1 }
      (.behind first before c after w) := by
  have hLast : below (c.toNat + 1) [c] = [c] := by
    simp [below]
  have hHere : below c.toNat (c :: after) = below c.toNat after := by
    simp [below]
  have hSize := congrArg List.length hSynced.out
  rw [hHere, List.length_append] at hSize
  have hCount := hSynced.count
  have hFirst := hSynced.first_le
  exact
    { out := by
        rw [below_append, hLast, List.append_assoc,
          List.singleton_append]
        rfl
      count := by
        rw [Reading.behind, List.length_append, List.length_cons]
        dsimp only
        omega
      bias := rfl
      isFirst := by
        symm
        rw [Reading.behind, beq_eq_false_iff_ne]
        dsimp only
        omega
      first_le := Nat.le_succ_of_le hFirst
      code_le := Nat.le_refl _
      distance := by
        rw [below_append, hLast, List.length_append,
          List.length_singleton, Reading.behind]
        dsimp only
        omega }

/- A character that is written later changes nothing. -/
theorem IsSynced.pass_more
    (hSynced : IsSynced first n before (c :: after) w r)
    (hMore : n < c.toNat) :
    IsSynced first n (before ++ [c]) after w r := by
  have hLast : below (n + 1) [c] = [] := by
    rw [below, List.filter_cons_of_neg, List.filter_nil]
    rw [decide_eq_true_iff]
    omega
  have hHere : below n (c :: after) = below n after := by
    simp [below, Nat.le_of_lt hMore]
  exact
    { hSynced with
      out := by
        rw [hSynced.out, hHere, below_append, hLast, List.append_nil]
      distance := by
        rw [hSynced.distance, below_append, hLast, List.append_nil] }

/- A reader follows the writer over one character. -/
theorem IsSynced.pass
    (hSynced : IsSynced first n before (c :: after) w r) :
    ∃ s, Follows w (w.pass first n c) r s ∧
      IsSynced first n (before ++ [c]) after (w.pass first n c) s := by
  rcases Nat.lt_trichotomy c.toNat n with hLess | hSame | hMore
  · rw [Writing.pass, if_pos hLess]
    exact ⟨r, .of_out_eq rfl r, hSynced.pass_less hLess⟩
  · cases hSame
    rw [Writing.pass, if_neg (Nat.lt_irrefl _),
      if_pos (beq_self_eq_true _)]
    refine ⟨_, ⟨digits w.bias 36 w.delta, rfl, ?_⟩, hSynced.pass_here⟩
    intro rest
    rw [hSynced.bias, run_digits, Nat.zero_add, Nat.mul_one,
      hSynced.put?_eq]
  · have hOther : ¬(c.toNat == n) = true := by
      rw [beq_iff_eq]
      omega
    rw [Writing.pass, if_neg (Nat.not_lt_of_lt hMore), if_neg hOther]
    exact ⟨r, .of_out_eq rfl r, hSynced.pass_more hMore⟩

/- A reader follows the writer over all characters. -/
theorem IsSynced.pass_all
    (hSynced : IsSynced first n before after w r) :
    ∃ s, Follows w (after.foldl (Writing.pass first n) w) r s ∧
      IsSynced first n (before ++ after) []
        (after.foldl (Writing.pass first n) w) s := by
  induction after generalizing before w r with
  | nil =>
      rw [List.append_nil]
      exact ⟨r, .of_out_eq rfl r, hSynced⟩
  | cons c after ih =>
      rcases hSynced.pass with ⟨s, hFollows, hNext⟩
      rcases ih hNext with ⟨t, hRest, hLast⟩
      rw [List.append_assoc, List.singleton_append] at hLast
      exact ⟨t, hFollows.trans hRest, hLast⟩

------------------------------------------------------------
-- All Code Points
------------------------------------------------------------

/- A list with one more number holds that number and the others. -/
theorem mem_insertRising
    {m n : Nat}
    {ns : List Nat} :
    m ∈ insertRising n ns ↔ m = n ∨ m ∈ ns := by
  induction ns with
  | nil => simp [insertRising]
  | cons k ns ih =>
      rw [insertRising]
      split
      · simp
      · split
        · rename_i hSame
          cases beq_iff_eq.mp hSame
          simp
        · rw [List.mem_cons, ih, List.mem_cons]
          tauto

/- A rising list stays rising. -/
theorem pairwise_insertRising
    {n : Nat}
    {ns : List Nat}
    (hRising : ns.Pairwise (· < ·)) :
    (insertRising n ns).Pairwise (· < ·) := by
  induction ns with
  | nil => exact List.pairwise_singleton _ _
  | cons k ns ih =>
      rw [insertRising]
      have hParts := List.pairwise_cons.mp hRising
      split
      · rename_i hLess
        rw [List.pairwise_cons]
        refine ⟨?_, hRising⟩
        intro m hm
        rcases List.mem_cons.mp hm with rfl | hm
        · exact hLess
        · exact Nat.lt_trans hLess (hParts.1 m hm)
      · split
        · exact hRising
        · rename_i hNotLess hNotSame
          rw [List.pairwise_cons]
          refine ⟨?_, ih hParts.2⟩
          intro m hm
          rcases mem_insertRising.mp hm with rfl | hm
          · have hApart := mt beq_iff_eq.mpr hNotSame
            omega
          · exact hParts.1 m hm

/- The rising list of some numbers. -/
theorem pairwise_rising (ns : List Nat) :
    (ns.foldr insertRising []).Pairwise (· < ·) := by
  induction ns with
  | nil => exact .nil
  | cons n ns ih => exact pairwise_insertRising ih

theorem mem_rising
    {m : Nat}
    {ns : List Nat} :
    m ∈ ns.foldr insertRising [] ↔ m ∈ ns := by
  induction ns with
  | nil => exact Iff.rfl
  | cons n ns ih => rw [List.foldr_cons, mem_insertRising, ih, List.mem_cons]

/- A bound can be raised over numbers that no character has. -/
theorem below_congr
    {m n : Nat}
    {cs : List Char}
    (hApart : ∀ c ∈ cs, c.toNat < m ↔ c.toNat < n) :
    below m cs = below n cs := by
  apply List.filter_congr
  intro c hc
  rw [decide_eq_decide]
  exact hApart c hc

/-
  The writer can go up to a code point if no character has one of
  those it leaves out.  The distance then counts every place at
  each of them.
-/
theorem IsSynced.raise
    {last : Nat}
    {cs : List Char}
    (hSynced : IsSynced first last [] cs w r)
    (hLast : last ≤ n)
    (hApart : ∀ c ∈ cs, c.toNat < last ↔ c.toNat < n) :
    IsSynced first n [] cs
      { w with delta := w.delta + (n - last) * (w.count + 1) } r :=
  { hSynced with
    out := by
      rw [hSynced.out]
      exact congrArg _ (below_congr hApart)
    code_le := Nat.le_trans hSynced.code_le hLast
    distance := by
      have hDistance := hSynced.distance
      have hGap :
          n * (w.count + 1) =
            last * (w.count + 1) + (n - last) * (w.count + 1) := by
        rw [← Nat.add_mul, Nat.add_sub_cancel' hLast]
      simp only [below, List.filter_nil, List.length_nil] at *
      omega }

/-
  The writer that has passed all characters can begin again at the
  next code point.
-/
theorem IsSynced.next
    {cs : List Char}
    (hSynced : IsSynced first n cs [] w r) :
    IsSynced first (n + 1) [] cs { w with delta := w.delta + 1 } r :=
  { hSynced with
    out := by
      rw [hSynced.out]
      simp [below]
    code_le := Nat.le_succ_of_le hSynced.code_le
    distance := by
      have hDistance := hSynced.distance
      have hSize := congrArg List.length hSynced.out
      rw [← hSynced.count] at hSize
      have hNil : below n [] = [] := rfl
      rw [hNil, List.append_nil] at hSize
      rw [← hSize] at hDistance
      have hSum :
          (n + 1) * (w.count + 1) = n * (w.count + 1) + (w.count + 1) :=
        Nat.succ_mul _ _
      simp only [below, List.filter_nil, List.length_nil] at *
      omega }

/-
  A reader follows the writer over all code points that are left,
  and then holds all characters.
-/
theorem IsSynced.run
    {cs : List Char}
    {last : Nat}
    {ns : List Nat}
    (hSynced : IsSynced first last [] cs w r)
    (hRising : ns.Pairwise (· < ·))
    (hLeast : ∀ n ∈ ns, last ≤ n)
    (hAll : ∀ c ∈ cs, c.toNat < last ∨ c.toNat ∈ ns) :
    ∃ s, Follows w (Writing.run cs first last w ns) r s ∧ s.out = cs := by
  induction ns generalizing last w r with
  | nil =>
      refine ⟨r, .of_out_eq rfl r, ?_⟩
      rw [hSynced.out]
      apply List.filter_eq_self.mpr
      intro c hc
      rw [decide_eq_true_iff]
      exact (hAll c hc).resolve_right List.not_mem_nil
  | cons n ns ih =>
      have hParts := List.pairwise_cons.mp hRising
      have hLast : last ≤ n := hLeast n List.mem_cons_self
      have hCases : ∀ c ∈ cs,
          c.toNat < last ∨ c.toNat = n ∨ c.toNat ∈ ns := by
        intro c hc
        exact (hAll c hc).imp_right List.mem_cons.mp
      have hApart : ∀ c ∈ cs, c.toNat < last ↔ c.toNat < n := by
        intro c hc
        refine ⟨fun hLess => Nat.lt_of_lt_of_le hLess hLast, ?_⟩
        intro hLess
        rcases hCases c hc with hOld | hSame | hLater
        · exact hOld
        · omega
        · have := hParts.1 _ hLater
          omega
      have hLeft : ∀ c ∈ cs, c.toNat < n + 1 ∨ c.toNat ∈ ns := by
        intro c hc
        rcases hCases c hc with hOld | hSame | hLater
        · exact .inl (by omega)
        · exact .inl (by omega)
        · exact .inr hLater
      rcases (hSynced.raise hLast hApart).pass_all with
        ⟨s, hFollows, hDone⟩
      rcases ih hDone.next hParts.2 hParts.1 hLeft with
        ⟨t, hRest, hOut⟩
      exact ⟨t, hFollows.trans hRest, hOut⟩

------------------------------------------------------------
-- The Plain Form
------------------------------------------------------------

/- What is written behind the plain characters are digits. -/
theorem mem_out_pass
    {d : Char}
    (hd : d ∈ (w.pass first n c).out) :
    d ∈ w.out ∨ ∃ k < 36, d = digit k := by
  rw [Writing.pass] at hd
  split at hd
  · exact .inl hd
  · split at hd
    · exact (List.mem_append.mp hd).imp_right mem_digits
    · exact .inl hd

theorem mem_out_pass_all
    {cs : List Char}
    {d : Char}
    (hd : d ∈ (cs.foldl (Writing.pass first n) w).out) :
    d ∈ w.out ∨ ∃ k < 36, d = digit k := by
  induction cs generalizing w with
  | nil => exact .inl hd
  | cons c cs ih =>
      rcases ih hd with hOld | hDigit
      · exact mem_out_pass hOld
      · exact .inr hDigit

theorem mem_out_run
    {cs : List Char}
    {last : Nat}
    {ns : List Nat}
    {d : Char}
    (hd : d ∈ (Writing.run cs first last w ns).out) :
    d ∈ w.out ∨ ∃ k < 36, d = digit k := by
  induction ns generalizing last w with
  | nil => exact .inl hd
  | cons n ns ih =>
      rw [Writing.run] at hd
      rcases ih hd with hOld | hDigit
      · exact mem_out_pass_all (w := { w with
          delta := w.delta + (n - last) * (w.count + 1) }) hOld
      · exact .inr hDigit

/- The writer that starts behind the plain characters of a text. -/
def written (cs : List Char) : Writing :=
  let plain := cs.filter (·.toNat < 128)
  Writing.run cs plain.length 128 ⟨[], 0, 72, plain.length⟩
    (((cs.filter (128 ≤ ·.toNat)).map Char.toNat).foldr insertRising [])

theorem encode_eq (cs : List Char) :
    encode cs =
      below 128 cs ++ (if (below 128 cs).isEmpty then [] else ['-']) ++
        (written cs).out :=
  rfl

/- Digits are no dashes. -/
theorem digit_ne_dash
    {n : Nat}
    (hn : n < 36) :
    digit n ≠ '-' := by
  intro hDash
  have hNat := toNat_digit hn
  rw [hDash] at hNat
  split at hNat
  · simp at hNat
    omega
  · simp at hNat
    omega

theorem not_mem_out_written (cs : List Char) :
    '-' ∉ (written cs).out := by
  intro hDash
  rcases mem_out_run hDash with hNil | ⟨n, hn, hDigit⟩
  · exact List.not_mem_nil hNil
  · exact digit_ne_dash hn hDigit.symm

/- The characters of the plain form of a text. -/
theorem mem_encode
    {cs : List Char}
    {d : Char}
    (hd : d ∈ encode cs) :
    (d ∈ cs ∧ d.toNat < 128) ∨ d = '-' ∨ ∃ n < 36, d = digit n := by
  rw [encode_eq, List.mem_append, List.mem_append] at hd
  rcases hd with (hPlain | hDash) | hOut
  · have hMem := List.mem_filter.mp hPlain
    exact .inl ⟨hMem.1, of_decide_eq_true hMem.2⟩
  · split at hDash
    · exact (List.not_mem_nil hDash).elim
    · exact .inr (.inl (List.mem_singleton.mp hDash))
  · rcases mem_out_run hOut with hNil | hDigit
    · exact (List.not_mem_nil hNil).elim
    · exact .inr (.inr hDigit)

/- The digits behind the plain characters are read as the text. -/
theorem run_written (cs : List Char) :
    Reading.run ⟨below 128 cs, 128, 0, 72, true⟩ 0 1 36
      (written cs).out = some cs := by
  have hStart :
      IsSynced (below 128 cs).length 128 [] cs
        ⟨[], 0, 72, (below 128 cs).length⟩
        ⟨below 128 cs, 128, 0, 72, true⟩ :=
    { out := rfl
      count := rfl
      bias := rfl
      isFirst := (beq_self_eq_true _).symm
      first_le := Nat.le_refl _
      code_le := Nat.le_refl _
      distance := rfl }
  let others := (cs.filter (128 ≤ ·.toNat)).map Char.toNat
  have hLeast : ∀ n ∈ others.foldr insertRising [], 128 ≤ n := by
    intro n hn
    rcases List.mem_map.mp (mem_rising.mp hn) with ⟨c, hc, rfl⟩
    exact of_decide_eq_true (List.mem_filter.mp hc).2
  have hAll : ∀ c ∈ cs,
      c.toNat < 128 ∨ c.toNat ∈ others.foldr insertRising [] := by
    intro c hc
    rcases Nat.lt_or_ge c.toNat 128 with hPlain | hOther
    · exact .inl hPlain
    · right
      rw [mem_rising]
      exact List.mem_map_of_mem
        (List.mem_filter.mpr ⟨hc, decide_eq_true hOther⟩)
  rcases hStart.run (pairwise_rising others) hLeast hAll with
    ⟨s, ⟨more, hMore, hReads⟩, hOut⟩
  have hAll := hReads []
  rw [List.append_nil, Reading.run] at hAll
  have hSame : (written cs).out = more := hMore
  rw [hSame, hAll, hOut]
  rfl

/- The plain form of a text is read back as the text. -/
theorem decode?_encode (cs : List Char) :
    decode? (encode cs) = some cs := by
  have hNone := not_mem_out_written cs
  have hKept : ∀ d ∈ (written cs).out.reverse, (d != '-') = true := by
    intro d hd
    rw [bne_iff_ne]
    rintro rfl
    exact hNone (List.mem_reverse.mp hd)
  have hTake : ∀ front : List Char,
      front = [] ∨ front.getLast? = some '-' →
      ((front ++ (written cs).out).reverse.takeWhile (· != '-')).reverse =
        (written cs).out := by
    intro front hFront
    rw [List.reverse_append, List.takeWhile_append_of_pos hKept,
      List.reverse_append, List.reverse_reverse]
    rcases hFront with rfl | hLast
    · rfl
    · rcases List.getLast?_eq_some_iff.mp hLast with ⟨front, rfl⟩
      simp
  have hRun := run_written cs
  rw [encode_eq]
  cases hPlain : below 128 cs with
  | nil =>
      rw [hPlain] at hRun
      simp only [List.isEmpty_nil, if_true, List.append_nil,
        List.nil_append]
      rw [decode?]
      have hBehind := hTake [] (.inl rfl)
      rw [List.nil_append] at hBehind
      simp only [hBehind]
      simpa using hRun
  | cons p plain =>
      rw [hPlain] at hRun
      rw [decode?]
      simp only [List.isEmpty_cons, Bool.false_eq_true, if_false]
      simp only [hTake (p :: plain ++ ['-']) (.inr List.getLast?_concat)]
      have hLength :
          (p :: plain ++ ['-'] ++ (written cs).out).length -
              (written cs).out.length - 1 =
            (p :: plain).length := by
        simp only [List.length_append, List.length_cons, List.length_nil]
        omega
      rw [hLength, List.append_assoc, List.take_left]
      simp only [List.isEmpty_cons, Bool.and_false, Bool.false_eq_true,
        if_false]
      exact hRun

end Punycode

end Gleaner
