import Gleaner.Proofs.Text.Number
import Gleaner.Proofs.Text.Pieces
import Gleaner.Url.Address

/-
  Numeric addresses are written so that they are read back: the
  four bytes of the older form, and the eight pieces of the newer
  one, of which the longest run of zeros is left out.

  Main declarations:
    * `Url.Address4.lt_of_read?`
    * `Url.Address4.endsInNumber_exchange`
    * `Url.Address4.read?_write`
    * `Url.Address6.IsValid`
    * `Url.Address6.isValid_of_read?`
    * `Url.Address6.read?_write`
-/

namespace Gleaner

namespace Url

------------------------------------------------------------
-- Four Bytes
------------------------------------------------------------

namespace Address4

/- An address has four bytes. -/
theorem lt_of_read?
    {cs : List Char}
    {n : Nat}
    (hRead : read? cs = some n) :
    n < 256 ^ 4 := by
  rw [read?] at hRead
  rcases Option.bind_eq_some_iff.mp hRead with ⟨numbers, _, hNumbers⟩
  rw [ofNumbers?] at hNumbers
  split at hNumbers
  · cases hNumbers
  · rename_i last before hReverse
    dsimp only at hNumbers
    split at hNumbers
    · cases hNumbers
    · rename_i hFits
      cases hNumbers
      simp only [Bool.or_eq_true, decide_eq_true_eq, List.any_eq_true,
        not_or, not_exists, not_and, Nat.not_lt, Nat.not_le] at hFits
      rcases hFits with ⟨⟨hCount, hBytes⟩, hLast⟩
      have hFront :=
        Text.foldl_digits_lt fun b hb =>
          Nat.lt_succ_of_le (hBytes b hb)
      generalize hSum :
        before.reverse.foldl (fun n b => n * 256 + b) 0 = sum at *
      generalize hSize : before.reverse.length = size at *
      have hSplit : 256 ^ 4 = 256 ^ size * 256 ^ (4 - size) := by
        rw [← Nat.pow_add, Nat.add_sub_of_le (by omega)]
      rw [hSplit]
      calc sum * 256 ^ (4 - size) + last
          < (sum + 1) * 256 ^ (4 - size) := by
            rw [Nat.add_mul, Nat.one_mul]
            exact Nat.add_lt_add_left hLast _
        _ ≤ 256 ^ size * 256 ^ (4 - size) :=
            Nat.mul_le_mul_right _ hFront

/- The characters of a written address. -/
theorem mem_write_cases
    {n : Nat}
    {c : Char}
    (hc : c ∈ write n) :
    Text.isDigit c = true ∨ c = '.' := by
  rcases Text.mem_joinWith_cases hc with hDot | ⟨piece, hPiece, hMem⟩
  · exact .inr (by simpa using hDot)
  · rcases List.mem_map.mp hPiece with ⟨b, _, rfl⟩
    exact .inl (Text.isDigit_of_mem_showNat hMem)

/- A byte in base ten is a number. -/
theorem readNumber_showNat
    {b : Nat}
    (hByte : b < 256) :
    readNumber (Text.showNat b) = some b := by
  have hAll : ∀ b : Fin 256, readNumber (Text.showNat b) = some b.val := by
    decide +kernel
  exact hAll ⟨b, hByte⟩

/- The parts of a written address are its bytes. -/
theorem parts_write (n : Nat) :
    parts (write n) =
      [n >>> 24, n >>> 16 % 256, n >>> 8 % 256, n % 256].map
        Text.showNat := by
  have hCut :
      Text.cutAt (· == '.') (write n) =
        [n >>> 24, n >>> 16 % 256, n >>> 8 % 256, n % 256].map
          Text.showNat := by
    apply Text.cutAt_joinWith
    · simp
    · intro piece hPiece hDot
      rcases List.mem_map.mp hPiece with ⟨b, _, rfl⟩
      exact absurd (Text.isDigit_of_mem_showNat hDot) (by decide)
  rw [parts, hCut]
  cases hLast : Text.showNat (n % 256) with
  | nil => exact absurd hLast (Text.showNat_ne_nil _)
  | cons c cs => simp [hLast]

/- Four bytes are the address that they spell. -/
theorem ofNumbers?_four
    {a b c d : Nat}
    (ha : a < 256)
    (hb : b < 256)
    (hc : c < 256)
    (hd : d < 256) :
    ofNumbers? [a, b, c, d] =
      some (((a * 256 + b) * 256 + c) * 256 + d) := by
  have hFits :
      (decide (3 < [a, b, c].length) || [a, b, c].any (255 < ·) ||
        decide (256 ≤ d)) = false := by
    simp
    omega
  show (if (decide (3 < [a, b, c].length) || [a, b, c].any (255 < ·) ||
      decide (256 ≤ d)) = true then none
    else some ((((0 * 256 + a) * 256 + b) * 256 + c) * 256 + d)) = _
  rw [if_neg (ne_true_of_eq_false hFits), Nat.zero_mul, Nat.zero_add]

/- A written address is read back. -/
theorem read?_write
    {n : Nat}
    (hFits : n < 256 ^ 4) :
    read? (write n) = some n := by
  have hBytes :
      ∀ b ∈ [n >>> 24, n >>> 16 % 256, n >>> 8 % 256, n % 256],
        b < 256 := by
    intro b hb
    simp only [Nat.shiftRight_eq_div_pow, List.mem_cons,
      List.not_mem_nil, or_false] at hb
    omega
  have hRead :
      ([n >>> 24, n >>> 16 % 256, n >>> 8 % 256, n % 256].map
        Text.showNat).mapM readNumber =
        some [n >>> 24, n >>> 16 % 256, n >>> 8 % 256, n % 256] := by
    apply mapM_eq_some_of_forall₂
    rw [List.forall₂_map_left_iff, List.forall₂_same]
    intro b hb
    exact readNumber_showNat (hBytes b hb)
  rw [read?, parts_write, hRead]
  simp only [List.mem_cons, List.not_mem_nil, or_false,
    forall_eq_or_imp, forall_eq] at hBytes
  rcases hBytes with ⟨h24, h16, h8, h0⟩
  dsimp only [bind, Option.bind]
  rw [ofNumbers?_four h24 h16 h8 h0]
  simp only [Nat.shiftRight_eq_div_pow]
  congr 1
  omega

/- Parts without an empty one at their end. -/
def dropEmptyEnd (pieces : List (List Char)) : List (List Char) :=
  match pieces.reverse with
  | [] :: before => before.reverse
  | _ => pieces

/- The first part stays unless it is empty. -/
theorem dropEmptyEnd_cons
    {first : List Char}
    (hSome : first ≠ [])
    (pieces : List (List Char)) :
    dropEmptyEnd (first :: pieces) = first :: dropEmptyEnd pieces := by
  rw [dropEmptyEnd, dropEmptyEnd, List.reverse_cons]
  cases pieces.reverse with
  | nil =>
      cases first with
      | nil => exact absurd rfl hSome
      | cons c first => rfl
  | cons last before =>
      cases last with
      | nil => simp
      | cons c last => rfl

/- A part that starts with no digit is no number. -/
theorem readNumber_cons
    {c : Char}
    (hOther : Text.isDigit c = false)
    (cs : List Char) :
    readNumber (c :: cs) = none := by
  have hAll : (c :: cs).all Text.isDigit = false := by
    rw [List.all_cons, hOther, Bool.false_and]
  rw [readNumber.eq_def]
  split
  · rfl
  · rename_i hText
    cases hText
    exact absurd hOther (by decide)
  · rw [hAll]
    rfl

/-
  The characters that a name starts with may be exchanged for
  others, unless these start with a digit: if it did not end in a
  number, it does not do so then.
-/
theorem endsInNumber_exchange
    {a b rest : List Char}
    (ha : ∀ c ∈ a, c ≠ '.')
    (hb : ∀ c ∈ b, c ≠ '.')
    (hSome : a ≠ [])
    (hFirst : ∃ c cs, b = c :: cs ∧ Text.isDigit c = false)
    (hName : endsInNumber (a ++ rest) = false) :
    endsInNumber (b ++ rest) = false := by
  rcases hFirst with ⟨c, cs, rfl, hOther⟩
  rcases List.exists_cons_of_ne_nil
    (Text.cutAt_ne_nil (· == '.') rest) with ⟨piece, pieces, hRest⟩
  have hParts : ∀ {front : List Char}, (∀ c ∈ front, c ≠ '.') → front ≠ [] →
      parts (front ++ rest) = (front ++ piece) :: dropEmptyEnd pieces := by
    intro front hFront hSome
    have hCut :
        Text.cutAt (· == '.') (front ++ rest) = (front ++ piece) :: pieces := by
      rw [Text.cutAt_append_front, hRest, List.modifyHead_cons]
      exact fun c hc => beq_eq_false_iff_ne.mpr (hFront c hc)
    show dropEmptyEnd (Text.cutAt (· == '.') (front ++ rest)) = _
    rw [hCut, dropEmptyEnd_cons (List.append_ne_nil_of_left_ne_nil hSome _)]
  rw [endsInNumber, hParts ha hSome, List.getLast?_cons] at hName
  rw [endsInNumber, hParts hb (List.cons_ne_nil c cs), List.getLast?_cons]
  cases hLast : (dropEmptyEnd pieces).getLast? with
  | some last =>
      -- the last part is another one than the first
      rw [hLast] at hName
      exact hName
  | none =>
      dsimp only [Option.getD_none]
      rw [List.cons_append, readNumber_cons hOther, List.all_cons, hOther]
      rfl

end Address4

------------------------------------------------------------
-- Eight Pieces
------------------------------------------------------------

namespace Address6

/- Eight pieces of two bytes. -/
structure IsValid (pieces : List Nat) : Prop where
  length_eq : pieces.length = 8
  small : ∀ n ∈ pieces, n < 65536

/- A piece has two bytes. -/
theorem lt_of_readPiece
    {cs : List Char}
    {n : Nat}
    (hRead : readPiece cs = some n) :
    n < 65536 := by
  rw [readPiece] at hRead
  split at hRead
  · cases hRead
  · rename_i hFits
    cases hRead
    simp only [Bool.or_eq_true, decide_eq_true_eq, Bool.not_eq_true',
      not_or, Nat.not_lt, Bool.not_eq_false, List.all_eq_true] at hFits
    rcases hFits with ⟨⟨_, hLength⟩, hDigits⟩
    have hBound :=
      Text.ofDigits_lt fun c hc => Text.hexValue_lt (hDigits c hc)
    exact Nat.lt_of_lt_of_le hBound
      (Nat.pow_le_pow_right (by decide) hLength)

/- Four bytes are two pieces. -/
theorem lt_of_readBytes
    {cs : List Char}
    {pieces : List Nat}
    (hRead : readBytes cs = some pieces) :
    ∀ n ∈ pieces, n < 65536 := by
  have hByte :
      ∀ {cs : List Char} {b : Nat}, readByte cs = some b → b ≤ 255 := by
    intro cs b hb
    rw [readByte] at hb
    split at hb
    · cases hb
    · rename_i hFits
      cases hb
      simp only [Bool.or_eq_true, decide_eq_true_eq, not_or,
        Nat.not_lt] at hFits
      exact hFits.1.2
  rw [readBytes] at hRead
  rcases Option.bind_eq_some_iff.mp hRead with ⟨bytes, hBytes, hFour⟩
  have hSmall : ∀ b ∈ bytes, b ≤ 255 := by
    intro b hb
    rcases List.mem_iff_getElem.mp hb with ⟨i, hi, rfl⟩
    have hEach := forall₂_of_mapM_eq_some hBytes
    exact hByte (hEach.get (hEach.length_eq ▸ hi) hi)
  split at hFour
  · cases hFour
    simp only [List.mem_cons, List.not_mem_nil, or_false,
      forall_eq_or_imp, forall_eq] at hSmall ⊢
    omega
  · cases hFour

/- Pieces between colons have two bytes each. -/
theorem lt_of_readPieces
    {atEnd : Bool}
    {texts : List (List Char)}
    {pieces : List Nat}
    (hRead : readPieces atEnd texts = some pieces) :
    ∀ n ∈ pieces, n < 65536 := by
  induction texts generalizing pieces with
  | nil =>
      cases hRead
      simp
  | cons text texts ih =>
      cases texts with
      | nil =>
          rw [readPieces] at hRead
          split at hRead
          · exact lt_of_readBytes hRead
          · rcases Option.map_eq_some_iff.mp hRead with ⟨n, hn, rfl⟩
            simpa using lt_of_readPiece hn
      | cons next texts =>
          rw [readPieces] at hRead
          · rcases Option.bind_eq_some_iff.mp hRead with ⟨n, hn, hMore⟩
            rcases Option.bind_eq_some_iff.mp hMore with
              ⟨later, hLater, hAll⟩
            cases hAll
            intro m hm
            rcases List.mem_cons.mp hm with rfl | hm
            · exact lt_of_readPiece hn
            · exact ih hLater m hm
          · simp

/- The pieces of a text have two bytes each. -/
theorem lt_of_readSide
    {atEnd : Bool}
    {cs : List Char}
    {pieces : List Nat}
    (hRead : readSide atEnd cs = some pieces) :
    ∀ n ∈ pieces, n < 65536 := by
  rw [readSide] at hRead
  split at hRead
  · cases hRead
    simp
  · exact lt_of_readPieces hRead

/- An address has eight pieces of two bytes. -/
theorem isValid_of_read?
    {cs : List Char}
    {pieces : List Nat}
    (hRead : read? cs = some pieces) :
    IsValid pieces := by
  rw [read?] at hRead
  split at hRead
  · rcases Option.bind_eq_some_iff.mp hRead with ⟨all, hAll, hCount⟩
    split at hCount
    · rename_i hEight
      cases hCount
      exact ⟨beq_iff_eq.mp hEight, lt_of_readSide hAll⟩
    · cases hCount
  · rcases Option.bind_eq_some_iff.mp hRead with ⟨front, hFront, hMore⟩
    rcases Option.bind_eq_some_iff.mp hMore with ⟨back, hBack, hCount⟩
    dsimp only at hCount
    split at hCount
    · cases hCount
      refine ⟨?_, ?_⟩
      · simp only [List.length_append, List.length_replicate]
        omega
      · intro n hn
        simp only [List.mem_append, List.mem_replicate] at hn
        rcases hn with (hn | ⟨_, rfl⟩) | hn
        · exact lt_of_readSide hFront n hn
        · decide
        · exact lt_of_readSide hBack n hn
    · cases hCount

/- The characters of a written address. -/
theorem mem_write_cases
    {pieces : List Nat}
    {c : Char}
    (hc : c ∈ write pieces) :
    Text.isHexDigit c = true ∨ c = ':' := by
  have hPieces :
      ∀ {pieces : List Nat}, c ∈ writePieces pieces →
        Text.isHexDigit c = true ∨ c = ':' := by
    intro pieces hc
    rcases Text.mem_joinWith_cases hc with hColon | ⟨piece, hPiece, hMem⟩
    · exact .inr (by simpa using hColon)
    · rcases List.mem_map.mp hPiece with ⟨n, _, rfl⟩
      exact .inl (Text.isHexDigit_of_mem_showHex hMem)
  rw [write] at hc
  dsimp only at hc
  split at hc
  · exact hPieces hc
  · simp only [List.mem_append, List.mem_cons, List.not_mem_nil,
      or_false, or_self] at hc
    rcases hc with (hc | hc) | hc
    · exact hPieces hc
    · exact .inr hc
    · exact hPieces hc

/- A written piece is not empty and holds no colon. -/
theorem showHex_plain (n : Nat) :
    Text.showHex n ≠ [] ∧ ':' ∉ Text.showHex n := by
  refine ⟨Text.showHex_ne_nil n, ?_⟩
  intro hColon
  exact absurd (Text.isHexDigit_of_mem_showHex hColon) (by decide)

/- No gap is found in a text without colons. -/
theorem splitGap_append
    {piece : List Char}
    (rest : List Char)
    (hPiece : ':' ∉ piece) :
    splitGap (piece ++ rest) =
      (piece ++ (splitGap rest).1, (splitGap rest).2) := by
  induction piece with
  | nil => rfl
  | cons c piece ih =>
      rw [List.mem_cons, not_or] at hPiece
      rw [List.cons_append, splitGap, ih hPiece.2]
      · rfl
      · rintro _ rfl
        exact absurd rfl hPiece.1

/- Written pieces do not start with a colon. -/
theorem exists_cons_writePieces
    (n : Nat)
    (pieces : List Nat) :
    ∃ c cs, c ≠ ':' ∧ writePieces (n :: pieces) = c :: cs := by
  cases hText : Text.showHex n with
  | nil => exact absurd hText (Text.showHex_ne_nil n)
  | cons c cs =>
      have hc : c ≠ ':' := by
        rintro rfl
        exact (showHex_plain n).2 (hText ▸ List.mem_cons_self)
      cases pieces with
      | nil => exact ⟨c, cs, hc, hText⟩
      | cons m pieces =>
          refine ⟨c, cs ++ [':'] ++ writePieces (m :: pieces), hc, ?_⟩
          show Text.showHex n ++ [':'] ++ writePieces (m :: pieces) = _
          rw [hText]
          rfl

/- No gap is found between pieces. -/
theorem splitGap_writePieces
    (pieces : List Nat)
    (rest : List Char) :
    splitGap (writePieces pieces ++ rest) =
      (writePieces pieces ++ (splitGap rest).1, (splitGap rest).2) := by
  induction pieces with
  | nil => rfl
  | cons n pieces ih =>
      cases pieces with
      | nil => exact splitGap_append rest (showHex_plain n).2
      | cons m pieces =>
          rcases exists_cons_writePieces m pieces with ⟨c, cs, hc, hText⟩
          have hJoin :
              writePieces (n :: m :: pieces) =
                Text.showHex n ++ ':' :: writePieces (m :: pieces) := by
            show Text.showHex n ++ [':'] ++ writePieces (m :: pieces) = _
            rw [List.append_assoc]
            rfl
          have hColon :
              splitGap (':' :: (writePieces (m :: pieces) ++ rest)) =
                (':' :: (writePieces (m :: pieces) ++ (splitGap rest).1),
                  (splitGap rest).2) := by
            rw [splitGap, ih]
            intro tail _ hTail
            rw [hText, List.cons_append, List.cons.injEq] at hTail
            exact hc hTail.1
          rw [hJoin, List.append_assoc, List.cons_append,
            splitGap_append _ (showHex_plain n).2, hColon,
            List.append_assoc, List.cons_append]

/- A written piece is read back. -/
theorem readPiece_showHex
    {n : Nat}
    (hSmall : n < 65536) :
    readPiece (Text.showHex n) = some n := by
  have hLength := Text.length_showHex_le hSmall
  have hDigits : (Text.showHex n).all Text.isHexDigit = true :=
    List.all_eq_true.mpr fun c => Text.isHexDigit_of_mem_showHex
  have hFits :
      ((Text.showHex n).isEmpty || decide (4 < (Text.showHex n).length) ||
        !(Text.showHex n).all Text.isHexDigit) = false := by
    rw [hDigits]
    simp [Text.showHex_ne_nil, hLength]
  rw [readPiece, if_neg (ne_true_of_eq_false hFits),
    Text.ofDigits_showHex]

/- Written pieces are read back. -/
theorem readPieces_showHex
    {atEnd : Bool}
    {pieces : List Nat}
    (hSmall : ∀ n ∈ pieces, n < 65536) :
    readPieces atEnd (pieces.map Text.showHex) = some pieces := by
  induction pieces with
  | nil => rfl
  | cons n pieces ih =>
      have hHead := readPiece_showHex (hSmall n List.mem_cons_self)
      have hTail := ih fun m hm => hSmall m (List.mem_cons_of_mem n hm)
      cases pieces with
      | nil =>
          have hDot : (Text.showHex n).contains '.' = false := by
            rw [← Bool.not_eq_true, List.contains_iff_mem]
            intro hDot
            exact absurd (Text.isHexDigit_of_mem_showHex hDot) (by decide)
          rw [List.map_cons, List.map_nil, readPieces, hDot,
            Bool.and_false, if_neg Bool.false_ne_true, hHead]
          rfl
      | cons m pieces =>
          rw [List.map_cons, readPieces, hHead, hTail]
          · rfl
          · simp

/- The pieces of a written text are read back. -/
theorem readSide_writePieces
    {atEnd : Bool}
    {pieces : List Nat}
    (hSmall : ∀ n ∈ pieces, n < 65536) :
    readSide atEnd (writePieces pieces) = some pieces := by
  cases pieces with
  | nil => rfl
  | cons n pieces =>
      rcases exists_cons_writePieces n pieces with ⟨c, cs, _, hText⟩
      have hCut :
          Text.cutAt (· == ':') (writePieces (n :: pieces)) =
            (n :: pieces).map Text.showHex := by
        apply Text.cutAt_joinWith
        · simp
        · intro piece hPiece
          rcases List.mem_map.mp hPiece with ⟨m, _, rfl⟩
          exact (showHex_plain m).2
      have hSome : (writePieces (n :: pieces)).isEmpty = false := by
        rw [hText]
        rfl
      rw [readSide, hSome, if_neg Bool.false_ne_true, hCut,
        readPieces_showHex hSmall]

/- Zeros that a list starts with. -/
theorem eq_zeros_append (pieces : List Nat) :
    pieces = List.replicate (zerosAt pieces) 0 ++
      pieces.drop (zerosAt pieces) := by
  induction pieces with
  | nil => rfl
  | cons n pieces ih =>
      cases n with
      | zero =>
          have hCount : zerosAt (0 :: pieces) = zerosAt pieces + 1 := by
            simp [zerosAt]
          rw [hCount, List.replicate_succ, List.cons_append,
            List.drop_succ_cons, ← ih]
      | succ n => simp [zerosAt]

/- The longest run of zeros is a run of zeros at its place. -/
theorem eq_append_of_longestZeros
    (first : Nat)
    (pieces : List Nat) :
    (longestZeros first pieces).2 = 0 ∨
      ∃ front back,
        pieces =
          front ++ List.replicate (longestZeros first pieces).2 0 ++ back ∧
        (longestZeros first pieces).1 = first + front.length := by
  induction pieces generalizing first with
  | nil => exact .inl rfl
  | cons n pieces ih =>
      rw [longestZeros]
      split
      · exact .inr ⟨[], _, eq_zeros_append (n :: pieces), rfl⟩
      · rcases ih (first + 1) with hNone | ⟨front, back, hPieces, hPlace⟩
        · exact .inl hNone
        · refine .inr ⟨n :: front, back, ?_, ?_⟩
          · rw [List.cons_append, List.cons_append, ← hPieces]
          · rw [hPlace, List.length_cons]
            omega

/- A written address is read back. -/
theorem read?_write
    {pieces : List Nat}
    (hValid : IsValid pieces) :
    read? (write pieces) = some pieces := by
  rcases hValid with ⟨hLength, hSmall⟩
  have hZeros := eq_append_of_longestZeros 0 pieces
  rw [write]
  generalize longestZeros 0 pieces = found at hZeros
  rcases found with ⟨start, count⟩
  dsimp only at hZeros ⊢
  split
  · have hGap := splitGap_writePieces pieces []
    rw [List.append_nil] at hGap
    rw [read?, hGap]
    simp only [splitGap, List.append_nil, readSide_writePieces hSmall,
      bind, Option.bind, hLength]
    rfl
  · rename_i hMany
    rcases hZeros with hNone | ⟨front, back, hPieces, hPlace⟩
    · omega
    · -- the pieces on both sides of the gap are read on their own
      have hFront : pieces.take start = front := by
        rw [hPieces, hPlace, List.append_assoc, Nat.zero_add,
          List.take_left]
      have hBack : pieces.drop (start + count) = back := by
        have hSize :
            start + count = (front ++ List.replicate count 0).length := by
          rw [List.length_append, List.length_replicate]
          omega
        rw [hPieces, hSize, List.drop_left]
      have hCount : front.length + count + back.length = 8 := by
        rw [← hLength, hPieces, List.length_append, List.length_append,
          List.length_replicate]
      have hFrontSmall : ∀ n ∈ front, n < 65536 := fun n hn =>
        hSmall n (by rw [hPieces]; simp [hn])
      have hBackSmall : ∀ n ∈ back, n < 65536 := fun n hn =>
        hSmall n (by rw [hPieces]; simp [hn])
      have hGap :=
        splitGap_writePieces front ([':', ':'] ++ writePieces back)
      rw [hFront, hBack, read?, List.append_assoc, hGap]
      simp only [List.cons_append, List.nil_append, splitGap,
        List.append_nil, readSide_writePieces hFrontSmall,
        readSide_writePieces hBackSmall, bind, Option.bind]
      rw [if_pos (by omega)]
      have hRun : 8 - (front.length + back.length) = count := by omega
      rw [hRun, ← hPieces]
      rfl

end Address6

end Url

end Gleaner
