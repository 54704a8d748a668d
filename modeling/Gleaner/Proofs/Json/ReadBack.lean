import Gleaner.Json.Parse
import Gleaner.Json.Print
import Mathlib.Data.List.Induction
import Mathlib.Data.String.Basic

/-
  Written JSON values are read back.  This holds for all values
  without numbers that are not nested too deep, whatever texts
  they hold.

  Main declarations:
    * `Json.takeText_flatMap_escape`
    * `Json.Plain`
    * `Json.Plain.isReadBack`
    * `Json.parse?_compact`
-/

namespace Gleaner

namespace Json

------------------------------------------------------------
-- Texts in Quotes
------------------------------------------------------------

/- The digits of a control character spell its number. -/
theorem hex4?_hexDigitLower :
    ∀ n < 32,
      hex4? '0' '0' (Text.hexDigitLower (n / 16))
        (Text.hexDigitLower (n % 16)) = some n := by
  decide

/- The characters that have a short escape. -/
def shortlyEscaped : List Char :=
  ['"', '\\', '\x08', '\t', '\n', '\x0c', '\r']

/- A short escape is read as the character that it stands for. -/
theorem takeText_escape_of_mem
    {c : Char}
    (hShort : c ∈ shortlyEscaped)
    (rest : List Char) :
    takeText (escape c ++ rest) = addChar c (takeText rest) := by
  simp only [shortlyEscaped, List.mem_cons, List.not_mem_nil,
    or_false] at hShort
  rcases hShort with rfl | rfl | rfl | rfl | rfl | rfl | rfl <;>
    simp [escape, takeText, unescape?]

/- Other characters are written by number if they are controls. -/
theorem escape_of_not_mem
    {c : Char}
    (hLong : c ∉ shortlyEscaped) :
    escape c =
      if c.toNat < 0x20 then
        ['\\', 'u', '0', '0', Text.hexDigitLower (c.toNat / 16),
          Text.hexDigitLower (c.toNat % 16)]
      else [c] := by
  simp only [shortlyEscaped, List.mem_cons, List.not_mem_nil,
    or_false, not_or] at hLong
  simp [escape, hLong]

/- The written form of a character is read as that character. -/
theorem takeText_escape
    (c : Char)
    (rest : List Char) :
    takeText (escape c ++ rest) = addChar c (takeText rest) := by
  by_cases hShort : c ∈ shortlyEscaped
  · exact takeText_escape_of_mem hShort rest
  · rw [escape_of_not_mem hShort]
    split
    · rename_i hControl
      have hNat : Char.ofNat c.toNat = c := Char.ofNat_toNat c
      have hLow : c.toNat < 0xD800 := by omega
      simp [takeText, hex4?_hexDigitLower _ hControl, hLow, hNat]
    · rename_i hPlain
      simp only [shortlyEscaped, List.mem_cons, not_or] at hShort
      rcases hShort with ⟨hQuote, hSlash, _⟩
      rw [List.cons_append, List.nil_append, takeText]
      · simp [hPlain, hSlash]
      · exact hQuote
      · intro a b c' d after h
        exact absurd h hSlash
      · intro c' after h
        exact absurd h hSlash

/- A text in quotes is read up to the closing quote. -/
theorem takeText_flatMap_escape
    (cs rest : List Char) :
    takeText (cs.flatMap escape ++ '"' :: rest) = some (cs, rest) := by
  induction cs with
  | nil => rw [List.flatMap_nil, List.nil_append, takeText]
  | cons c cs ih =>
      rw [List.flatMap_cons, List.append_assoc, takeText_escape, ih]
      rfl

------------------------------------------------------------
-- Tokens at the Start of a Text
------------------------------------------------------------

/- A text in quotes is a token. -/
theorem lex_quote (s : String) (rest : List Char) :
    lex (quote s ++ rest) =
      (lex rest).map (.value (.text s) :: ·) := by
  have hTake := takeText_flatMap_escape s.toList rest
  have hText :
      quote s ++ rest =
        '"' :: (s.toList.flatMap escape ++ '"' :: rest) := by
    simp [quote]
  rw [hText, lex]
  split
  · rename_i hSome
    rw [hTake] at hSome
    cases hSome
    rw [String.ofList_toList]
  · rename_i hNone
    rw [hTake] at hNone
    cases hNone

/- A mark of punctuation is a token. -/
theorem lex_punctuation
    {c : Char}
    {token : Token}
    (hToken : punctuation? c = some token)
    (rest : List Char) :
    lex (c :: rest) = (lex rest).map (token :: ·) := by
  unfold punctuation? at hToken
  split at hToken <;> cases hToken <;>
    (rw [lex] <;> simp [isSpace, punctuation?])

------------------------------------------------------------
-- Values Without Numbers
------------------------------------------------------------

/-
  A value without numbers that is not nested deeper than
  `depth`, with the fields of its objects in order.
-/
inductive Plain : Nat → Json → Prop
  | null {depth : Nat} : Plain depth .null
  | bool {depth : Nat} (b : Bool) : Plain depth (.bool b)
  | text {depth : Nat} (s : String) : Plain depth (.text s)
  | array {depth : Nat} (items : List Json)
      (hItems : ∀ v ∈ items, Plain depth v) :
      Plain (depth + 1) (.array items)
  | object {depth : Nat} (fields : List (String × Json))
      (hOrder : fields.Pairwise fun f g => f.1 < g.1)
      (hFields : ∀ f ∈ fields, Plain depth f.2) :
      Plain (depth + 1) (.object fields)

/- A field behind all others is put at the end. -/
theorem insertField_of_forall_lt
    {name : String}
    {value : Json}
    {fields : List (String × Json)}
    (hBehind : ∀ f ∈ fields, f.1 < name) :
    insertField name value fields = fields ++ [(name, value)] := by
  induction fields with
  | nil => rfl
  | cons f fields ih =>
      rcases f with ⟨n, v⟩
      have hLess : n < name := hBehind (n, v) List.mem_cons_self
      have ih := ih fun f hf => hBehind f (List.mem_cons_of_mem _ hf)
      simp only [insertField, List.cons_append, ih]
      rw [if_neg hLess.not_gt, if_neg hLess.ne']

/- Fields in order make an object of these fields. -/
theorem ofFields_of_pairwise
    {fields : List (String × Json)}
    (hOrder : fields.Pairwise fun f g => f.1 < g.1) :
    ofFields fields = .object fields := by
  unfold ofFields
  congr 1
  induction fields using List.reverseRecOn with
  | nil => rfl
  | append_singleton fields f ih =>
      rcases List.pairwise_append.mp hOrder with ⟨hBefore, _, hBehind⟩
      rw [List.foldl_append, ih hBefore]
      exact insertField_of_forall_lt fun g hg =>
        hBehind g hg f List.mem_cons_self

------------------------------------------------------------
-- Running the Machine
------------------------------------------------------------

/- The state behind the tokens of a text. -/
def readFrom (s : State) (cs : List Char) : Option State :=
  (lex cs).bind (run s)

/- Behind one token, the rest of the text is read. -/
theorem readFrom_of_step
    {e : Expect}
    {stack : List Frame}
    {s : State}
    {token : Token}
    {cs rest : List Char}
    (hLex : lex cs = (lex rest).map (token :: ·))
    (hStep : step e stack token = some s) :
    readFrom (.open e stack) cs = readFrom s rest := by
  unfold readFrom
  rw [hLex]
  cases lex rest with
  | none => rfl
  | some tokens => simp [run, hStep]

/- A mark of punctuation is a step. -/
theorem readFrom_punctuation
    {e : Expect}
    {stack : List Frame}
    {s : State}
    {c : Char}
    (token : Token)
    (rest : List Char)
    (hToken : punctuation? c = some token)
    (hStep : step e stack token = some s) :
    readFrom (.open e stack) (c :: rest) = readFrom s rest :=
  readFrom_of_step (lex_punctuation hToken rest) hStep

/- A value may start. -/
def Expect.IsStart (e : Expect) : Prop :=
  e = .value ∨ e = .valueOrClose

/- Where a value may start, a token is one or starts one. -/
theorem step_of_isStart
    {e : Expect}
    (hStart : e.IsStart)
    (stack : List Frame)
    {token : Token}
    (hToken : token ≠ .closeArray) :
    step e stack token = startValue stack token := by
  rcases hStart with rfl | rfl
  · rfl
  · cases token <;> first | rfl | exact absurd rfl hToken

/- There is room for one more frame below the greatest depth. -/
theorem enter_of_lt
    (e : Expect)
    (frame : Frame)
    {stack : List Frame}
    (hDepth : stack.length < maxDepth) :
    enter e frame stack = some (.open e (frame :: stack)) :=
  if_pos hDepth

/- A value is read in full where one may start. -/
def IsReadBack (depth : Nat) (v : Json) : Prop :=
  ∀ (e : Expect) (stack : List Frame) (rest : List Char),
    e.IsStart → stack.length + depth ≤ maxDepth →
      readFrom (.open e stack) (v.render ++ rest) =
        readFrom (finish v stack) rest

/- The items of an open array are read up to its end. -/
theorem readFrom_renderItems
    {depth : Nat}
    {items : List Json}
    (hItems : ∀ v ∈ items, IsReadBack depth v)
    (done : List Json)
    {stack : List Frame}
    (hDepth : stack.length + (depth + 1) ≤ maxDepth)
    (rest : List Char) :
    readFrom (.open .commaOrClose (.array done :: stack))
        (renderItems items ++ ']' :: rest) =
      readFrom (finish (.array (done.reverse ++ items)) stack)
        rest := by
  induction items generalizing done with
  | nil =>
      rw [List.append_nil]
      exact readFrom_punctuation .closeArray rest rfl rfl
  | cons v items ih =>
      have hRead := hItems v List.mem_cons_self
      have ih := ih (fun w hw => hItems w (List.mem_cons_of_mem _ hw))
        (v :: done)
      simp only [renderItems, List.cons_append, List.append_assoc]
      rw [readFrom_punctuation .comma _ rfl rfl,
        hRead _ _ _ (.inl rfl)
          (by simp only [List.length_cons]; omega)]
      simpa [finish, Frame.add] using ih

/- The fields of an open object are read up to its end. -/
theorem readFrom_renderFields
    {depth : Nat}
    {fields : List (String × Json)}
    (hFields : ∀ f ∈ fields, IsReadBack depth f.2)
    (done : List (String × Json))
    {stack : List Frame}
    (hDepth : stack.length + (depth + 1) ≤ maxDepth)
    (rest : List Char) :
    readFrom (.open .commaOrClose (.object done "" :: stack))
        (renderFields fields ++ '\x7d' :: rest) =
      readFrom (finish (ofFields (done.reverse ++ fields)) stack)
        rest := by
  induction fields generalizing done with
  | nil =>
      rw [List.append_nil]
      exact readFrom_punctuation .closeObject rest rfl rfl
  | cons f fields ih =>
      rcases f with ⟨name, v⟩
      have hRead := hFields (name, v) List.mem_cons_self
      have ih := ih
        (fun g hg => hFields g (List.mem_cons_of_mem _ hg))
        ((name, v) :: done)
      simp only [renderFields, List.cons_append, List.append_assoc]
      rw [readFrom_punctuation .comma _ rfl rfl,
        readFrom_of_step (lex_quote name _) rfl,
        readFrom_punctuation .colon _ rfl rfl,
        hRead _ _ _ (.inl rfl)
          (by simp only [List.length_cons]; omega)]
      simpa [finish, Frame.add] using ih

/- An array is read in full if its items are. -/
theorem isReadBack_array
    {depth : Nat}
    {items : List Json}
    (hItems : ∀ v ∈ items, IsReadBack depth v) :
    IsReadBack (depth + 1) (.array items) := by
  intro e stack rest hStart hDepth
  have hOpen :
      step e stack .openArray =
        some (.open .valueOrClose (.array [] :: stack)) := by
    rw [step_of_isStart hStart stack (by simp)]
    exact enter_of_lt _ _ (by omega)
  cases items with
  | nil =>
      simp only [render, List.cons_append, List.nil_append]
      rw [readFrom_punctuation .openArray _ rfl hOpen,
        readFrom_punctuation .closeArray _ rfl rfl]
      rfl
  | cons v items =>
      simp only [render, List.cons_append, List.append_assoc,
        List.nil_append]
      rw [readFrom_punctuation .openArray _ rfl hOpen,
        hItems v List.mem_cons_self _ _ _ (.inr rfl)
          (by simp only [List.length_cons]; omega)]
      exact readFrom_renderItems
        (fun w hw => hItems w (List.mem_cons_of_mem _ hw))
        [v] hDepth rest

/- An object is read in full if its values are. -/
theorem isReadBack_object
    {depth : Nat}
    {fields : List (String × Json)}
    (hFields : ∀ f ∈ fields, IsReadBack depth f.2)
    (hOrder : fields.Pairwise fun f g => f.1 < g.1) :
    IsReadBack (depth + 1) (.object fields) := by
  intro e stack rest hStart hDepth
  have hOpen :
      step e stack .openObject =
        some (.open .nameOrClose (.object [] "" :: stack)) := by
    rw [step_of_isStart hStart stack (by simp)]
    exact enter_of_lt _ _ (by omega)
  cases fields with
  | nil =>
      simp only [render, List.cons_append, List.nil_append]
      rw [readFrom_punctuation .openObject _ rfl hOpen,
        readFrom_punctuation .closeObject _ rfl rfl]
      rfl
  | cons f fields =>
      rcases f with ⟨name, v⟩
      simp only [render, List.cons_append, List.append_assoc,
        List.nil_append]
      rw [readFrom_punctuation .openObject _ rfl hOpen,
        readFrom_of_step (lex_quote name _) rfl,
        readFrom_punctuation .colon _ rfl rfl,
        hFields (name, v) List.mem_cons_self _ _ _ (.inl rfl)
          (by simp only [List.length_cons]; omega)]
      have hRest :=
        readFrom_renderFields
          (fun g hg => hFields g (List.mem_cons_of_mem _ hg))
          [(name, v)] hDepth rest
      rw [← ofFields_of_pairwise hOrder]
      exact hRest

/- A value without numbers is read in full. -/
theorem Plain.isReadBack
    {depth : Nat}
    {v : Json}
    (hPlain : Plain depth v) :
    IsReadBack depth v := by
  induction hPlain with
  | null =>
      intro e stack rest hStart _
      have hLex :
          lex (render .null ++ rest) =
            (lex rest).map (.value .null :: ·) := by
        simp [render, lex]
      exact readFrom_of_step hLex
        (step_of_isStart hStart stack (by simp))
  | bool b =>
      intro e stack rest hStart _
      have hLex :
          lex (render (.bool b) ++ rest) =
            (lex rest).map (.value (.bool b) :: ·) := by
        cases b <;> simp [render, lex]
      exact readFrom_of_step hLex
        (step_of_isStart hStart stack (by simp))
  | text s =>
      intro e stack rest hStart _
      rw [render]
      exact readFrom_of_step (lex_quote s rest)
        (step_of_isStart hStart stack (by simp))
  | array items _ ih => exact isReadBack_array ih
  | object fields hOrder _ ih => exact isReadBack_object ih hOrder

------------------------------------------------------------
-- Whole Texts
------------------------------------------------------------

/- A value without numbers is read back from its text. -/
theorem parse?_compact
    {v : Json}
    (hPlain : Plain maxDepth v) :
    parse? v.compact = some v := by
  have hRead :
      readFrom (.open .value []) v.render = some (.done v) := by
    have hFull :=
      hPlain.isReadBack .value [] [] (.inl rfl) (by simp)
    rw [List.append_nil] at hFull
    rw [hFull]
    simp [readFrom, lex, run, finish]
  unfold readFrom at hRead
  simp [parse?, parseChars?, compact, hRead]

end Json

end Gleaner
