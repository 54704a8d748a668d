import Gleaner.Proofs.Domain.PlainForm
import Gleaner.Proofs.Url.Address
import Gleaner.Proofs.Url.Encode
import Gleaner.Url.Parse

/-
  Hosts are written so that they are read back: the names of
  domains in their plain form, other names with their controls
  encoded, and numeric addresses.

  Main declarations:
    * `Url.isServerChar`
    * `Url.IsHost`
    * `Url.isHost_of_readHost`
    * `Url.IsHost.readHost_write`
    * `Url.IsHost.splitHost_write`
-/

namespace Gleaner

namespace Url

------------------------------------------------------------
-- Characters of Authorities
------------------------------------------------------------

/-
  A character that stands in an authority without ending it, and
  without ending the name of a user.
-/
def isServerChar (c : Char) : Bool :=
  !(isLow c || isAnySlash c || c == '?' || c == '#' || c == '@')

/- A character that stands in the name of a host. -/
def isHostChar (c : Char) : Bool :=
  isServerChar c && c != ':' && c != '[' && c != ']'

/- Such characters belong to an authority of any kind. -/
theorem endsAuthority_of_isServerChar
    {c : Char}
    (kind : Kind)
    (hc : isServerChar c = true) :
    endsAuthority kind c = false := by
  simp only [isServerChar, isAnySlash, Bool.not_eq_true',
    Bool.or_eq_false_iff] at hc
  simp [endsAuthority, isSlash, hc]

/- Digits of base sixteen stand in names. -/
theorem isHostChar_of_isHexDigit
    {c : Char}
    (hc : Text.isHexDigit c = true) :
    isHostChar c = true :=
  Text.forall_hexDigit (P := (isHostChar · = true)) (by decide) hc

/- Digits stand in names. -/
theorem isHostChar_of_isDigit
    {c : Char}
    (hc : Text.isDigit c = true) :
    isHostChar c = true :=
  isHostChar_of_isHexDigit (Text.isHexDigit_of_isDigit hc)

/- Characters of domain names stand in names, and no percent sign. -/
theorem isHostChar_of_isNameChar
    {c : Char}
    (hc : Domain.IsNameChar c) :
    isHostChar c = true ∧ c ≠ '%' :=
  Text.forall_plain
    (P := fun c => Domain.isForbidden c = false →
      isHostChar c = true ∧ c ≠ '%')
    (by decide) hc.plain hc.allowed

/- Characters that are no controls are plain. -/
theorem isPlain_of_isControl
    {c : Char}
    (hControl : isControl c = false) :
    c.toNat < 128 := by
  simp only [isControl, Bool.or_eq_false_iff,
    decide_eq_false_iff_not] at hControl
  omega

/- Characters that are not bad, and no controls, stand in names. -/
theorem isHostChar_of_isBadInName
    {c : Char}
    (hBad : isBadInName c = false)
    (hControl : isControl c = false) :
    isHostChar c = true := by
  exact Text.forall_plain
    (P := fun c => isBadInName c = false → isControl c = false →
      isHostChar c = true)
    (by decide) (isPlain_of_isControl hControl) hBad hControl

------------------------------------------------------------
-- Hosts
------------------------------------------------------------

/- The hosts that are read in URLs of a kind. -/
inductive IsHost (kind : Kind) : Host → Prop
  | domain {name : List Char}
      (special : kind.isSpecial = true)
      (plain : Domain.toPlain? name = some name)
      (some : name ≠ [])
      (noNumber : Address4.endsInNumber name = false) :
      IsHost kind (.name (String.ofList name))
  | name {name : List Char}
      (other : kind.isSpecial = false)
      (some : name ≠ [])
      (fits : ∀ c ∈ name, isBadInName c = false ∧ isControl c = false) :
      IsHost kind (.name (String.ofList name))
  | four {n : Nat}
      (special : kind.isSpecial = true)
      (fits : n < 256 ^ 4) :
      IsHost kind (.four n)
  | six {pieces : List Nat}
      (valid : Address6.IsValid pieces) :
      IsHost kind (.six pieces)

variable {kind : Kind}
variable {host : Host}

/- Square brackets hold an address of the newer form. -/
theorem isHost_of_readBracket
    {cs : List Char}
    (hRead : readBracket cs = .ok host) :
    IsHost kind host := by
  rw [readBracket] at hRead
  split at hRead
  · split at hRead
    · rename_i pieces hPieces
      cases hRead
      exact .six (Address6.isValid_of_read? hPieces)
    · cases hRead
  · cases hRead

/- A host of a special scheme is a domain or an address. -/
theorem isHost_of_readDomain
    {cs : List Char}
    (hSpecial : kind.isSpecial = true)
    (hRead : readDomain cs = .ok host) :
    IsHost kind host := by
  rw [readDomain.eq_def] at hRead
  split at hRead
  · exact isHost_of_readBracket hRead
  · split at hRead
    · cases hRead
    · cases hRead
    · rename_i name hSome hName
      rcases Option.bind_eq_some_iff.mp hName with ⟨text, _, hPlain⟩
      split at hRead
      · split at hRead
        · rename_i n hNumber
          cases hRead
          exact .four hSpecial (Address4.lt_of_read? hNumber)
        · cases hRead
      · rename_i hOther
        cases hRead
        exact .domain hSpecial (Domain.toPlain?_toPlain? hPlain)
          (fun hNone => hSome hNone) (eq_false_of_ne_true hOther)

/- A host of any other scheme is a name or an address. -/
theorem isHost_of_readName
    {cs : List Char}
    (hOther : kind.isSpecial = false)
    (hSome : cs ≠ [])
    (hRead : readName cs = .ok host) :
    IsHost kind host := by
  rw [readName.eq_def] at hRead
  split at hRead
  · exact isHost_of_readBracket hRead
  · split at hRead
    · cases hRead
    · rename_i hBad
      cases hRead
      rw [Bool.not_eq_true, List.any_eq_false] at hBad
      refine .name hOther (encode_ne_nil hSome) ?_
      apply forall_mem_encode
      · decide
      · decide
      · intro d hd hControl
        exact ⟨eq_false_of_ne_true (hBad d hd), hControl⟩

/- A host that is read belongs to its kind. -/
theorem isHost_of_readHost
    {cs : List Char}
    (hRead : readHost kind cs = .ok (some host)) :
    IsHost kind host := by
  rw [readHost] at hRead
  split at hRead
  · split at hRead
    · cases hRead
    · cases hRead
  · rename_i hSome
    split at hRead
    · rename_i hSpecial
      cases hDomain : readDomain cs with
      | error e =>
          rw [hDomain] at hRead
          cases hRead
      | ok found =>
          rw [hDomain] at hRead
          cases hRead
          exact isHost_of_readDomain hSpecial hDomain
    · rename_i hOther
      cases hName : readName cs with
      | error e =>
          rw [hName] at hRead
          cases hRead
      | ok found =>
          rw [hName] at hRead
          cases hRead
          exact isHost_of_readName (eq_false_of_ne_true hOther)
            (by simpa using hSome) hName

------------------------------------------------------------
-- Written Hosts
------------------------------------------------------------

/- The brackets of an address are read. -/
theorem readBracket_write
    {pieces : List Nat}
    (hValid : Address6.IsValid pieces) :
    readBracket (Address6.write pieces ++ [']']) = .ok (.six pieces) := by
  have hReverse :
      (Address6.write pieces ++ [']']).reverse =
        ']' :: (Address6.write pieces).reverse := by
    rw [List.reverse_append]
    rfl
  simp only [readBracket, hReverse, List.reverse_reverse,
    Address6.read?_write hValid]

/- The domain of a name is read. -/
theorem readDomain_of_toPlain?
    {name : List Char}
    (hPlain : Domain.toPlain? name = some name)
    (hSome : name ≠ []) :
    readDomain name =
      if Address4.endsInNumber name then
        match Address4.read? name with
        | some n => .ok (.four n)
        | none => .error .badAddress4
      else .ok (.name (String.ofList name)) := by
  have hChars : ∀ c ∈ name, isHostChar c = true ∧ c ≠ '%' := fun c hc =>
    isHostChar_of_isNameChar
      (Domain.isNameChar_of_mem_toPlain? hPlain hc)
  have hBytes :
      (Utf8.decode? (decode name)).bind Domain.toPlain? = some name := by
    rw [decode_of_not_mem fun hc => (hChars '%' hc).2 rfl,
      Utf8.decode?_encode_of_isPlain fun c hc =>
        (Domain.isNameChar_of_mem_toPlain? hPlain hc).plain]
    exact hPlain
  cases name with
  | nil => exact absurd rfl hSome
  | cons c name =>
      rw [readDomain.eq_def]
      split
      · rename_i rest hBracket
        rw [List.cons.injEq] at hBracket
        exact absurd (hChars c List.mem_cons_self).1
          (by rw [hBracket.1]; decide)
      · generalize (Utf8.decode? (decode (c :: name))).bind
          Domain.toPlain? = found at hBytes
        subst hBytes
        rfl

/- The domain of a written address is read. -/
theorem readDomain_write
    {n : Nat}
    (hFits : n < 256 ^ 4) :
    readDomain (Address4.write n) = .ok (.four n) := by
  have hPlain :
      Domain.toPlain? (Address4.write n) = some (Address4.write n) := by
    apply Domain.toPlain?_of_isDigit
    · simp
    · intro label hLabel c hc
      rcases List.mem_map.mp hLabel with ⟨b, _, rfl⟩
      exact Text.isDigit_of_mem_showNat hc
  have hDigits : (Text.showNat (n % 256)).all Text.isDigit = true :=
    List.all_eq_true.mpr fun c => Text.isDigit_of_mem_showNat
  have hNumber : Address4.endsInNumber (Address4.write n) = true := by
    rw [Address4.endsInNumber, Address4.parts_write]
    simp [hDigits, Text.showNat_ne_nil]
  have hSome : Address4.write n ≠ [] := by
    intro hNone
    rw [hNone] at hNumber
    cases hNumber
  rw [readDomain_of_toPlain? hPlain hSome, hNumber, if_pos rfl,
    Address4.read?_write hFits]

/- A written host is not empty. -/
theorem IsHost.write_ne_nil (hHost : IsHost kind host) :
    host.write ≠ [] := by
  cases hHost with
  | domain _ _ hSome _ =>
      rw [Host.write, String.toList_ofList]
      exact hSome
  | name _ hSome _ =>
      rw [Host.write, String.toList_ofList]
      exact hSome
  | four _ hFits =>
      intro hNone
      have hRead := Address4.read?_write hFits
      rw [Host.write] at hNone
      rw [hNone] at hRead
      cases hRead
  | six => simp [Host.write]

/- A written host is read back. -/
theorem IsHost.readHost_write (hHost : IsHost kind host) :
    readHost kind host.write = .ok (some host) := by
  have hText : host.write.isEmpty = false := by
    simpa using hHost.write_ne_nil
  rw [readHost, hText, if_neg Bool.false_ne_true]
  cases hHost with
  | domain hSpecial hPlain hSome hNumber =>
      rw [if_pos hSpecial, Host.write, String.toList_ofList,
        readDomain_of_toPlain? hPlain hSome, hNumber]
      rfl
  | @name name hOther hSome hFits =>
      rw [if_neg (ne_true_of_eq_false hOther), Host.write,
        String.toList_ofList]
      have hGood : name.any isBadInName = false := by
        rw [List.any_eq_false]
        intro c hc
        exact ne_true_of_eq_false (hFits c hc).1
      have hRead : readName name = .ok (.name (String.ofList name)) := by
        rw [readName.eq_def]
        split
        · exact absurd (hFits '[' List.mem_cons_self).1 (by decide)
        · rw [hGood, if_neg Bool.false_ne_true,
            encode_of_not_mem fun c hc => (hFits c hc).2]
      rw [hRead]
      rfl
  | four hSpecial hFits =>
      rw [if_pos hSpecial, Host.write, readDomain_write hFits]
      rfl
  | six hValid =>
      split
      · rw [Host.write, List.cons_append, readDomain,
          readBracket_write hValid]
        rfl
      · rw [Host.write, List.cons_append, readName,
          readBracket_write hValid]
        rfl

/- What the text of a host is made of. -/
theorem IsHost.write_cases (hHost : IsHost kind host) :
    (∀ c ∈ host.write, isHostChar c = true) ∨
      ∃ address, host.write = '[' :: address ++ [']'] ∧
        ∀ c ∈ address, isHostChar c = true ∨ c = ':' := by
  cases hHost with
  | domain _ hPlain _ _ =>
      rw [Host.write, String.toList_ofList]
      exact .inl fun c hc =>
        (isHostChar_of_isNameChar
          (Domain.isNameChar_of_mem_toPlain? hPlain hc)).1
  | name _ _ hFits =>
      rw [Host.write, String.toList_ofList]
      exact .inl fun c hc =>
        isHostChar_of_isBadInName (hFits c hc).1 (hFits c hc).2
  | four =>
      refine .inl fun c hc => ?_
      rcases Address4.mem_write_cases hc with hDigit | rfl
      · exact isHostChar_of_isDigit hDigit
      · decide
  | six =>
      refine .inr ⟨_, rfl, fun c hc => ?_⟩
      rcases Address6.mem_write_cases hc with hDigit | rfl
      · exact .inl (isHostChar_of_isHexDigit hDigit)
      · exact .inr rfl

/- The characters of a written host stand in an authority. -/
theorem IsHost.isServerChar_of_mem_write
    {c : Char}
    (hHost : IsHost kind host)
    (hc : c ∈ host.write) :
    isServerChar c = true := by
  have hHostChar : isHostChar c = true → isServerChar c = true := by
    intro hChar
    simp only [isHostChar, Bool.and_eq_true] at hChar
    exact hChar.1.1.1
  rcases hHost.write_cases with hAll | ⟨address, hText, hAll⟩
  · exact hHostChar (hAll c hc)
  · rw [hText] at hc
    simp only [List.cons_append, List.mem_cons, List.mem_append,
      List.not_mem_nil, or_false] at hc
    rcases hc with rfl | hMem | rfl
    · decide
    · rcases hAll c hMem with hChar | rfl
      · exact hHostChar hChar
      · decide
    · decide

/- There are no controls in a written host. -/
theorem IsHost.isControl_of_mem_write
    {c : Char}
    (hHost : IsHost kind host)
    (hc : c ∈ host.write) :
    isControl c = false := by
  have hDigit : ∀ {d : Char}, Text.isHexDigit d = true →
      isControl d = false :=
    Text.forall_hexDigit (P := (isControl · = false)) (by decide)
  cases hHost with
  | domain _ hPlain _ _ =>
      rw [Host.write, String.toList_ofList] at hc
      have hName := Domain.isNameChar_of_mem_toPlain? hPlain hc
      exact Text.forall_plain
        (P := fun c => Domain.isForbidden c = false → isControl c = false)
        (by decide) hName.plain hName.allowed
  | name _ _ hFits =>
      rw [Host.write, String.toList_ofList] at hc
      exact (hFits c hc).2
  | four =>
      rcases Address4.mem_write_cases hc with hNumber | rfl
      · exact hDigit (Text.isHexDigit_of_isDigit hNumber)
      · decide
  | six =>
      simp only [Host.write, List.cons_append, List.mem_cons,
        List.mem_append, List.not_mem_nil, or_false] at hc
      rcases hc with rfl | hMem | rfl
      · decide
      · rcases Address6.mem_write_cases hMem with hNumber | rfl
        · exact hDigit hNumber
        · decide
      · decide

------------------------------------------------------------
-- Ends of Hosts
------------------------------------------------------------

/- The text ends a host: it is empty, or starts like an end. -/
def EndsHost (kind : Kind) (cs : List Char) : Prop :=
  ∀ c ∈ cs.head?, c = ':' ∨ endsAuthority kind c = true

/- A host does not reach into what ends it. -/
theorem splitHost_of_endsHost
    {rest : List Char}
    (hEnd : EndsHost kind rest) :
    splitHost kind false rest = ([], rest) := by
  cases rest with
  | nil => rfl
  | cons c rest =>
      rw [splitHost, if_pos]
      rcases hEnd c rfl with rfl | hEnds
      · rfl
      · rw [hEnds, Bool.or_true]

/- A name belongs to the host. -/
theorem splitHost_append
    {name : List Char}
    (rest : List Char)
    (hName : ∀ c ∈ name, isHostChar c = true) :
    splitHost kind false (name ++ rest) =
      (name ++ (splitHost kind false rest).1,
        (splitHost kind false rest).2) := by
  induction name with
  | nil => rfl
  | cons c name ih =>
      have hc := hName c List.mem_cons_self
      have hRest := ih fun d hd => hName d (List.mem_cons_of_mem c hd)
      simp only [isHostChar, Bool.and_eq_true, bne_iff_ne] at hc
      rcases hc with ⟨⟨⟨hServer, hColon⟩, hOpen⟩, hClose⟩
      rw [List.cons_append, splitHost,
        endsAuthority_of_isServerChar kind hServer]
      simp [hColon, hOpen, hClose, hRest]

/- An address in brackets belongs to the host with its colons. -/
theorem splitHost_bracket
    {address : List Char}
    (rest : List Char)
    (hAddress : ∀ c ∈ address, isHostChar c = true ∨ c = ':') :
    splitHost kind true (address ++ ']' :: rest) =
      (address ++ ']' :: (splitHost kind false rest).1,
        (splitHost kind false rest).2) := by
  induction address with
  | nil =>
      rw [List.nil_append, splitHost,
        endsAuthority_of_isServerChar kind (by decide)]
      rfl
  | cons c address ih =>
      have hRest := ih fun d hd => hAddress d (List.mem_cons_of_mem c hd)
      have hc : isServerChar c = true ∧ c ≠ '[' ∧ c ≠ ']' := by
        rcases hAddress c List.mem_cons_self with hChar | rfl
        · simp only [isHostChar, Bool.and_eq_true, bne_iff_ne] at hChar
          exact ⟨hChar.1.1.1, hChar.1.2, hChar.2⟩
        · decide
      rw [List.cons_append, splitHost,
        endsAuthority_of_isServerChar kind hc.1]
      simp [hc.2.1, hc.2.2, hRest]

/- A written host is found in front of what ends it. -/
theorem IsHost.splitHost_write
    {rest : List Char}
    (hHost : IsHost kind host)
    (hEnd : EndsHost kind rest) :
    splitHost kind false (host.write ++ rest) = (host.write, rest) := by
  have hStop := splitHost_of_endsHost hEnd
  rcases hHost.write_cases with hAll | ⟨address, hText, hAll⟩
  · rw [splitHost_append rest hAll, hStop, List.append_nil]
  · have hBracket := @splitHost_bracket kind _ rest hAll
    rw [hStop] at hBracket
    have hOpen :
        splitHost kind false ('[' :: (address ++ ']' :: rest)) =
          ('[' :: (address ++ [']']), rest) := by
      rw [splitHost, endsAuthority_of_isServerChar kind (by decide)]
      simp [hBracket]
    rw [hText, List.append_assoc, List.cons_append]
    exact hOpen

end Url

end Gleaner
