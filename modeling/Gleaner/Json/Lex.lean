import Gleaner.Json.Basic
import Gleaner.Text.Number

/-
  The tokens of JSON texts.

  Key definitions include:
    * `Json.Token`
    * `Json.takeText`
    * `Json.takeNumber`
    * `Json.lex`
-/

namespace Gleaner

namespace Json

/- The smallest parts of a text that have a meaning. -/
inductive Token
  | openArray
  | closeArray
  | openObject
  | closeObject
  | colon
  | comma
  | value (v : Json)
deriving Repr

------------------------------------------------------------
-- Texts
------------------------------------------------------------

/- Four digits of base sixteen as a number. -/
def hex4? (a b c d : Char) : Option Nat :=
  if [a, b, c, d].all Text.isHexDigit then
    some (Text.ofDigits 16 Text.hexValue [a, b, c, d])
  else none

/- The character that a short escape stands for. -/
def unescape? : Char → Option Char
  | '"' => some '"'
  | '\\' => some '\\'
  | '/' => some '/'
  | 'b' => some '\x08'
  | 'f' => some '\x0c'
  | 'n' => some '\n'
  | 'r' => some '\r'
  | 't' => some '\t'
  | _ => none

/- Put a character in front of a text that was read. -/
def addChar (c : Char) :
    Option (List Char × List Char) → Option (List Char × List Char)
  | some (cs, rest) => some (c :: cs, rest)
  | none => none

/-
  The text up to the closing quote, and what follows it.  Two
  escapes of surrogates make one character; one alone, a
  control or a missing quote is refused.
-/
def takeText : List Char → Option (List Char × List Char)
  | [] => none
  | '"' :: rest => some ([], rest)
  | '\\' :: 'u' :: a :: b :: c :: d :: rest =>
      match hex4? a b c d with
      | none => none
      | some n =>
          if n < 0xD800 || 0xE000 ≤ n then
            addChar (Char.ofNat n) (takeText rest)
          else if 0xDC00 ≤ n then none
          else
            match rest with
            | '\\' :: 'u' :: a :: b :: c :: d :: rest =>
                match hex4? a b c d with
                | none => none
                | some m =>
                    if 0xDC00 ≤ m && m < 0xE000 then
                      addChar
                        (Char.ofNat
                          (0x10000 + (n - 0xD800) * 0x400 + (m - 0xDC00)))
                        (takeText rest)
                    else none
            | _ => none
  | '\\' :: c :: rest =>
      match unescape? c with
      | some c => addChar c (takeText rest)
      | none => none
  | c :: rest =>
      if c.toNat < 0x20 || c == '\\' then none
      else addChar c (takeText rest)

------------------------------------------------------------
-- Numbers
------------------------------------------------------------

/-
  Digits added to a number as long as it stays below `2 ^ 64`.
  The count tells how many digits were taken.
-/
def gather : Nat → List Char → Nat × Nat
  | n, [] => (n, 0)
  | n, c :: cs =>
      let m := n * 10 + Text.digitValue c
      if Text.maxWord < m then (n, 0)
      else
        let (n, count) := gather m cs
        (n, count + 1)

/- The largest exponent that is told apart. -/
def maxExponent : Nat := 0x7FFFFFFF

/- The parts of the text of a number. -/
structure NumberText where
  negative : Bool
  whole : List Char
  fraction : Option (List Char)
  exponent : Option (Bool × List Char)
deriving DecidableEq, Repr

/- The real number that a text of a number stands for. -/
def NumberText.real? (t : NumberText) : Option Binary64 :=
  let (n, taken) := gather 0 t.whole
  let (n, places) := gather n (t.fraction.getD [])
  let moved : Int := (t.whole.length - taken : Nat) - (places : Int)
  match t.exponent with
  | none => Binary64.ofDecimal? t.negative n moved
  | some (down, digits) =>
      let power := Text.ofDigits 10 Text.digitValue digits
      if maxExponent < power then
        if n == 0 || down then some (Binary64.zero t.negative) else none
      else
        Binary64.ofDecimal? t.negative n
          (if down then moved - power else moved + power)

/- The absolute value of the smallest whole number. -/
def minWord : Nat := 0x8000000000000000

/-
  The number that a text stands for.  It is whole if it has
  neither point nor exponent and fits into 64 bits.
-/
def NumberText.value? (t : NumberText) : Option Number :=
  let n := Text.ofDigits 10 Text.digitValue t.whole
  let isWhole := t.fraction.isNone && t.exponent.isNone
  if isWhole && !t.negative && n ≤ Text.maxWord then some (.natural n)
  else if isWhole && t.negative && 0 < n && n ≤ minWord then
    some (.negative n)
  else t.real?.map .real

/- Digits, as many as there are, and what follows them. -/
def takeDigits (cs : List Char) : List Char × List Char :=
  (cs.takeWhile Text.isDigit, cs.dropWhile Text.isDigit)

/- An optional sign, whether it is a minus, and what follows. -/
def takeSign : List Char → Bool × List Char
  | '-' :: rest => (true, rest)
  | '+' :: rest => (false, rest)
  | cs => (false, cs)

/- An optional minus sign, whether it is there, and what follows. -/
def takeMinus : List Char → Bool × List Char
  | '-' :: rest => (true, rest)
  | cs => (false, cs)

/- An optional point with digits behind it, and what follows. -/
def takeFraction? : List Char → Option (Option (List Char) × List Char)
  | '.' :: rest =>
      let (digits, rest) := takeDigits rest
      if digits.isEmpty then none else some (some digits, rest)
  | cs => some (none, cs)

/- An optional exponent with its sign, and what follows. -/
def takeExponent? :
    List Char → Option (Option (Bool × List Char) × List Char)
  | [] => some (none, [])
  | c :: rest =>
      if c == 'e' || c == 'E' then
        let (down, rest) := takeSign rest
        let (digits, rest) := takeDigits rest
        if digits.isEmpty then none
        else some (some (down, digits), rest)
      else some (none, c :: rest)

/- The text of a number, and what follows it. -/
def takeNumberText (cs : List Char) : Option (NumberText × List Char) :=
  let (negative, cs) := takeMinus cs
  let (whole, rest) := takeDigits cs
  if whole.isEmpty || (whole.head? == some '0' && 1 < whole.length) then
    none
  else
    match takeFraction? rest with
    | none => none
    | some (fraction, rest) =>
        match takeExponent? rest with
        | none => none
        | some (exponent, rest) =>
            some (⟨negative, whole, fraction, exponent⟩, rest)

------------------------------------------------------------
-- What Follows Is Shorter
------------------------------------------------------------

/- Taking digits leaves no more than there was. -/
theorem takeDigits_length (cs : List Char) :
    (takeDigits cs).2.length ≤ cs.length :=
  (List.dropWhile_suffix _).length_le

/- Taking a digit leaves less than there was. -/
theorem takeDigits_length_lt
    {cs : List Char}
    (h : (takeDigits cs).1 ≠ []) :
    (takeDigits cs).2.length < cs.length := by
  have happ :
      (takeDigits cs).1 ++ (takeDigits cs).2 = cs :=
    List.takeWhile_append_dropWhile
  have hlen := congrArg List.length happ
  have hpos := List.length_pos_iff.mpr h
  simp only [List.length_append] at hlen
  omega

/- Reading a sign leaves no more than there was. -/
theorem takeSign_length (cs : List Char) :
    (takeSign cs).2.length ≤ cs.length := by
  unfold takeSign
  split <;> simp

/- Reading a minus sign leaves no more than there was. -/
theorem takeMinus_length (cs : List Char) :
    (takeMinus cs).2.length ≤ cs.length := by
  unfold takeMinus
  split <;> simp

/- Reading a fraction leaves no more than there was. -/
theorem takeFraction?_length
    {cs rest : List Char}
    {fraction : Option (List Char)}
    (h : takeFraction? cs = some (fraction, rest)) :
    rest.length ≤ cs.length := by
  unfold takeFraction? at h
  split at h
  · rename_i after
    have hlen := takeDigits_length after
    simp only at h
    split at h
    · simp at h
    · simp only [Option.some.injEq, Prod.mk.injEq] at h
      rw [← h.2]
      simp only [List.length_cons]
      omega
  · simp only [Option.some.injEq, Prod.mk.injEq] at h
    simp [h.2]

/- Reading an exponent leaves no more than there was. -/
theorem takeExponent?_length
    {cs rest : List Char}
    {exponent : Option (Bool × List Char)}
    (h : takeExponent? cs = some (exponent, rest)) :
    rest.length ≤ cs.length := by
  unfold takeExponent? at h
  split at h
  · simp_all
  · rename_i c after
    have hsign := takeSign_length after
    have hlen := takeDigits_length (takeSign after).2
    split at h
    · simp only at h
      split at h
      · simp at h
      · simp only [Option.some.injEq, Prod.mk.injEq] at h
        rw [← h.2]
        simp only [List.length_cons]
        omega
    · simp only [Option.some.injEq, Prod.mk.injEq] at h
      simp [← h.2]

/- Reading a number leaves less than there was. -/
theorem takeNumberText_length
    {cs rest : List Char}
    {t : NumberText}
    (h : takeNumberText cs = some (t, rest)) :
    rest.length < cs.length := by
  unfold takeNumberText at h
  have hminus := takeMinus_length cs
  simp only at h
  split at h
  · simp at h
  · rename_i hne
    have hdigits :=
      @takeDigits_length_lt (takeMinus cs).2 (by
        intro hnil
        simp [hnil] at hne)
    split at h
    · simp at h
    · rename_i fraction after hfraction
      have hf := takeFraction?_length hfraction
      split at h
      · simp at h
      · rename_i exponent last hexponent
        have he := takeExponent?_length hexponent
        simp only [Option.some.injEq, Prod.mk.injEq] at h
        rw [← h.2]
        omega

/- Adding a character keeps what follows. -/
theorem addChar_eq_some
    {c : Char}
    {read : Option (List Char × List Char)}
    {s rest : List Char}
    (h : addChar c read = some (s, rest)) :
    ∃ s', read = some (s', rest) := by
  unfold addChar at h
  split at h
  · simp only [Option.some.injEq, Prod.mk.injEq] at h
    exact ⟨_, by rw [← h.2]⟩
  · simp at h

/- Reading a text leaves less than there was. -/
theorem takeText_length
    {cs s rest : List Char}
    (h : takeText cs = some (s, rest)) :
    rest.length < cs.length := by
  fun_induction takeText cs generalizing s with
  | case1 => simp at h
  | case2 =>
      simp only [Option.some.injEq, Prod.mk.injEq] at h
      simp [h.2]
  | case4 | case7 | case10 | case13 =>
      rename_i ih
      rcases addChar_eq_some h with ⟨s', h'⟩
      have := ih h'
      simp only [List.length_cons]
      omega
  | _ => simp at h

------------------------------------------------------------
-- Whole Texts
------------------------------------------------------------

/- The white space of the format. -/
def isSpace (c : Char) : Bool :=
  c == ' ' || c == '\t' || c == '\n' || c == '\r'

/- The punctuation of the format. -/
def punctuation? : Char → Option Token
  | '[' => some .openArray
  | ']' => some .closeArray
  | '\x7b' => some .openObject
  | '\x7d' => some .closeObject
  | ':' => some .colon
  | ',' => some .comma
  | _ => none

/- The tokens of a text, or `none` if some part is not one. -/
def lex (cs : List Char) : Option (List Token) :=
  match cs with
  | [] => some []
  | '"' :: rest =>
      match _h : takeText rest with
      | some (s, after) =>
          (lex after).map (.value (.text (String.ofList s)) :: ·)
      | none => none
  | 'n' :: 'u' :: 'l' :: 'l' :: rest =>
      (lex rest).map (.value .null :: ·)
  | 't' :: 'r' :: 'u' :: 'e' :: rest =>
      (lex rest).map (.value (.bool true) :: ·)
  | 'f' :: 'a' :: 'l' :: 's' :: 'e' :: rest =>
      (lex rest).map (.value (.bool false) :: ·)
  | c :: rest =>
      if isSpace c then lex rest
      else
        match punctuation? c with
        | some token => (lex rest).map (token :: ·)
        | none =>
            match _h : takeNumberText (c :: rest) with
            | some (t, after) =>
                match t.value? with
                | some n => (lex after).map (.value (.number n) :: ·)
                | none => none
            | none => none
termination_by cs.length
decreasing_by
  all_goals simp only [List.length_cons]
  · have h := takeText_length _h
    omega
  · omega
  · omega
  · omega
  · omega
  · omega
  · have h := takeNumberText_length _h
    simp only [List.length_cons] at h
    omega

end Json

end Gleaner
