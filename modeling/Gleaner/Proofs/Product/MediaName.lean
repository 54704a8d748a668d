import Gleaner.Harvest.Shelf
import Mathlib.Data.Set.Function

/-
  The names of the files of media: the digest in front tells
  the addresses apart, and each name is that of a file.

  Main declarations:
    * `Md5.length_hex`
    * `mediaName_eq_append`
    * `mediaName_injOn`
    * `Shelf.isPlain_mediaName`
-/

namespace Gleaner

------------------------------------------------------------
-- Digests as Texts
------------------------------------------------------------

namespace Text

/- A digit of base sixteen in small letters is such a digit. -/
theorem isHexDigit_hexDigitLower
    {n : Nat}
    (hDigit : n < 16) :
    isHexDigit (hexDigitLower n) = true := by
  have hAll :
      ∀ d : Fin 16, isHexDigit (hexDigitLower d) = true := by
    decide
  exact hAll ⟨n, hDigit⟩

/- A byte is written with digits of base sixteen. -/
theorem isHexDigit_of_mem_hexByte
    {b : UInt8}
    {c : Char}
    (hc : c ∈ hexByte b) :
    isHexDigit c = true := by
  have hByte : b.toNat < 256 := b.toNat_lt
  simp only [hexByte, List.mem_cons, List.not_mem_nil,
    or_false] at hc
  rcases hc with rfl | rfl
  · exact isHexDigit_hexDigitLower (by omega)
  · exact isHexDigit_hexDigitLower (by omega)

end Text

namespace Md5

@[simp] theorem length_littleEndian (count n : Nat) :
    (littleEndian count n).length = count := by
  induction count generalizing n with
  | zero => rfl
  | succ count ih => simp [littleEndian, ih]

/- A digest has sixteen bytes. -/
theorem length_digest (bytes : List UInt8) :
    (digest bytes).length = 16 := by
  simp [digest]

/- A digest is written in 32 characters. -/
theorem length_hex (s : String) :
    (hex s).toList.length = 32 := by
  have hBytes :
      ∀ bytes : List UInt8,
        (bytes.flatMap Text.hexByte).length = 2 * bytes.length := by
    intro bytes
    induction bytes with
    | nil => rfl
    | cons b bytes ih =>
        rw [List.flatMap_cons, List.length_append, ih]
        simp [Text.hexByte]
        omega
  rw [hex, String.toList_ofList, hBytes, length_digest]

/- A digest is written in digits of base sixteen. -/
theorem isHexDigit_of_mem_hex
    {s : String}
    {c : Char}
    (hc : c ∈ (hex s).toList) :
    Text.isHexDigit c = true := by
  rw [hex, String.toList_ofList] at hc
  rcases List.mem_flatMap.mp hc with ⟨b, _, hb⟩
  exact Text.isHexDigit_of_mem_hexByte hb

end Md5

------------------------------------------------------------
-- Names of Media
------------------------------------------------------------

/- The endings that files of media have. -/
def mediaEndings : List String :=
  [".gif", ".png", ".mp4", ".jpg"]

/- A name is a digest and an ending. -/
theorem mediaName_eq_append (url : String) :
    ∃ ending ∈ mediaEndings, mediaName url = Md5.hex url ++ ending := by
  simp only [mediaName]
  split
  · rename_i hKnown
    refine ⟨_, ?_, rfl⟩
    simp only [List.contains_iff_mem, List.mem_cons,
      List.not_mem_nil, or_false] at hKnown
    simp only [mediaEndings, List.mem_cons, List.not_mem_nil,
      or_false]
    rcases hKnown with h | h | h
    · exact .inl h
    · exact .inr (.inl h)
    · exact .inr (.inr (.inl h))
  · exact ⟨".jpg", by decide, rfl⟩

/- The digest of an address can be told from the name. -/
theorem hex_eq_of_mediaName_eq
    {u v : String}
    (hSame : mediaName u = mediaName v) :
    Md5.hex u = Md5.hex v := by
  rcases mediaName_eq_append u with ⟨e, _, hu⟩
  rcases mediaName_eq_append v with ⟨f, _, hv⟩
  rw [hu, hv] at hSame
  have hChars := congrArg String.toList hSame
  rw [String.toList_append, String.toList_append] at hChars
  have hDigest :=
    List.append_inj_left hChars
      ((Md5.length_hex u).trans (Md5.length_hex v).symm)
  exact String.toList_injective hDigest

/- Addresses that digests tell apart have different names. -/
theorem mediaName_injOn
    {urls : Set String}
    (hDigests : urls.InjOn Md5.hex) :
    urls.InjOn mediaName := by
  intro u hu v hv hSame
  exact hDigests hu hv (hex_eq_of_mediaName_eq hSame)

/- A medium goes to the file that is named for its address. -/
theorem Record.name_of_mem_mediaFiles
    {r : Record}
    {f : MediaFile}
    (hf : f ∈ r.mediaFiles) :
    f.name = mediaName f.url := by
  rcases List.mem_map.mp hf with ⟨url, _, rfl⟩
  rfl

/- A name is short, and holds no slash and no zero. -/
theorem mediaName_plain (url : String) :
    (mediaName url).toList.length = 36 ∧
      '/' ∉ (mediaName url).toList ∧
      '\x00' ∉ (mediaName url).toList := by
  rcases mediaName_eq_append url with ⟨ending, hEnding, hName⟩
  have hEndings :
      ∀ e ∈ mediaEndings,
        e.toList.length = 4 ∧ '/' ∉ e.toList ∧
          '\x00' ∉ e.toList := by
    decide
  rcases hEndings ending hEnding with ⟨hLength, hSlash, hZero⟩
  have hDigest :
      ∀ c, Text.isHexDigit c = false → c ∉ (Md5.hex url).toList := by
    intro c hc hMem
    rw [Md5.isHexDigit_of_mem_hex hMem] at hc
    cases hc
  rw [hName, String.toList_append]
  refine ⟨?_, ?_, ?_⟩
  · rw [List.length_append, Md5.length_hex, hLength]
  · rw [List.mem_append, not_or]
    exact ⟨hDigest _ (by decide), hSlash⟩
  · rw [List.mem_append, not_or]
    exact ⟨hDigest _ (by decide), hZero⟩

------------------------------------------------------------
-- Places of Media
------------------------------------------------------------

/- A text has at most four times as many bytes as characters. -/
theorem Utf8.length_encode_le (cs : List Char) :
    (encode cs).length ≤ 4 * cs.length := by
  induction cs with
  | nil => exact Nat.le_refl 0
  | cons c cs ih =>
      have hChar : (encodeChar c).length ≤ 4 := by
        simp only [encodeChar]
        split
        · simp
        · split
          · simp
          · split <;> simp
      have hCons : encode (c :: cs) = encodeChar c ++ encode cs :=
        List.flatMap_cons
      rw [hCons, List.length_append, List.length_cons]
      omega

/- The name of a medium is that of a file. -/
theorem Shelf.isPlain_mediaName (url : String) :
    isPlain (mediaName url) = true := by
  rcases mediaName_plain url with ⟨hLength, hSlash, hZero⟩
  unfold isPlain
  generalize (mediaName url).toList = cs at *
  have hShort : (Utf8.encode cs).length ≤ maxName := by
    have hBytes := Utf8.length_encode_le cs
    simp only [maxName]
    omega
  have hOther :
      ∀ short : List Char, short.length < 36 → cs ≠ short := by
    rintro short hFew rfl
    omega
  have hEmpty : cs ≠ [] := hOther [] (by decide)
  have hDot : cs ≠ ['.'] := hOther ['.'] (by decide)
  have hDots : cs ≠ ['.', '.'] := hOther ['.', '.'] (by decide)
  simp [hSlash, hZero, hEmpty, hDot, hDots, hShort]

end Gleaner
