import Gleaner.Proofs.Url.Host
import Gleaner.Proofs.Url.Path
import Gleaner.Proofs.Url.Readers

/-
  The parts of a URL that is read: each of them holds only what
  may stand in it, so that none ends where another one starts.

  Main declarations:
    * `Url.IsScheme`
    * `Url.Authority.IsSound`
    * `Url.IsFront`
    * `Url.IsSound`
    * `Url.isSound_read`
-/

namespace Gleaner

namespace Url

------------------------------------------------------------
-- Schemes
------------------------------------------------------------

/- A scheme in small letters. -/
structure IsScheme (scheme : String) : Prop where
  starts : ∃ c cs, scheme.toList = c :: cs ∧ Text.isLetter c = true
  chars : ∀ c ∈ scheme.toList, isSchemeChar c = true
  small : scheme.toLower = scheme

/- The characters of schemes are plain. -/
theorem isPlain_of_isSchemeChar
    {c : Char}
    (hc : isSchemeChar c = true) :
    c.toNat < 128 := by
  simp only [isSchemeChar, Text.isLetter, Text.isDigit,
    Bool.or_eq_true, Bool.and_eq_true, decide_eq_true_eq,
    beq_iff_eq] at hc
  rcases hc with (((hLetter | hDigit) | rfl) | rfl) | rfl
  · omega
  · omega
  · decide
  · decide
  · decide

/- The characters of schemes in small letters. -/
theorem toLower_of_isSchemeChar
    {c : Char}
    (hc : isSchemeChar c = true) :
    isSchemeChar c.toLower = true ∧ c.toLower.toLower = c.toLower ∧
      (Text.isLetter c = true → Text.isLetter c.toLower = true) :=
  Text.forall_plain
    (P := fun c => isSchemeChar c = true →
      isSchemeChar c.toLower = true ∧ c.toLower.toLower = c.toLower ∧
        (Text.isLetter c = true → Text.isLetter c.toLower = true))
    (by decide) (isPlain_of_isSchemeChar hc) hc

/- The small letters of a text, one by one. -/
theorem toList_toLower (s : String) :
    s.toLower.toList = s.toList.map Char.toLower :=
  String.toList_map

/- A scheme that is taken is one. -/
theorem isScheme_of_takeScheme?
    {cs rest : List Char}
    {scheme : String}
    (hTake : takeScheme? cs = some (scheme, rest)) :
    IsScheme scheme := by
  rw [takeScheme?] at hTake
  split at hTake
  · rename_i c name _ hName _
    split at hTake
    · rename_i hLetter
      cases hTake
      have hChars : ∀ d ∈ c :: name, isSchemeChar d = true := by
        rw [← hName]
        exact fun d hd => List.mem_takeWhile_imp hd
      have hText :
          ((String.ofList (c :: name)).toLower).toList =
            (c :: name).map Char.toLower := by
        rw [toList_toLower, String.toList_ofList]
      refine ⟨⟨c.toLower, name.map Char.toLower, hText, ?_⟩, ?_, ?_⟩
      · exact (toLower_of_isSchemeChar
          (hChars c List.mem_cons_self)).2.2 hLetter
      · rw [hText]
        intro d hd
        rcases List.mem_map.mp hd with ⟨e, he, rfl⟩
        exact (toLower_of_isSchemeChar (hChars e he)).1
      · apply String.toList_injective
        rw [toList_toLower, hText, List.map_map]
        apply List.map_congr_left
        intro d hd
        exact (toLower_of_isSchemeChar (hChars d hd)).2.1
    · cases hTake
  · cases hTake

/- What follows a scheme ends the text. -/
theorem takeScheme?_suffix
    {cs rest : List Char}
    {scheme : String}
    (hTake : takeScheme? cs = some (scheme, rest)) :
    rest <:+ cs := by
  rw [takeScheme?] at hTake
  split at hTake
  · rename_i hRest
    split at hTake
    · cases hTake
      have hDrop := List.dropWhile_suffix isSchemeChar (l := cs)
      rw [hRest] at hDrop
      exact (List.suffix_cons _ _).trans hDrop
    · cases hTake
  · cases hTake

/- Files have a scheme of their own. -/
theorem eq_file_of_ofScheme
    {scheme : String}
    (hKind : Kind.ofScheme scheme = .file) :
    scheme = "file" := by
  rw [Kind.ofScheme] at hKind
  split at hKind
  · rename_i hFile
    exact beq_iff_eq.mp hFile
  · split at hKind
    · cases hKind
    · cases hKind

------------------------------------------------------------
-- Authorities
------------------------------------------------------------

/-
  An authority that can be read: only a host has a user and a
  port, and one that offers files has neither.
-/
structure Authority.IsSound (scheme : String) (a : Authority) :
    Prop where
  user : ∀ c ∈ a.user.toList, isServerChar c = true
  host : ∀ h ∈ a.host, IsHost (.ofScheme scheme) h
  port : ∀ p ∈ a.port, p ≤ 65535
  alone : a.host = none ∨ Kind.ofScheme scheme = .file →
    a.user = "" ∧ a.port = none

/- The name of a user does not end the authority. -/
theorem isServerChar_of_mem_readUser
    {cs : List Char}
    {c : Char}
    (hc : c ∈ (readUser cs).toList) :
    isServerChar c = true := by
  have hEncode :
      ∀ text : List Char, ∀ d ∈ encode inUser text,
        isServerChar d = true := by
    intro text
    apply forall_mem_encode
    · decide
    · decide
    · intro d _ hOut
      have hPlain : d.toNat < 128 := by
        simp only [inUser, inPath, inFragment, isControl,
          Bool.or_eq_false_iff, decide_eq_false_iff_not] at hOut
        omega
      exact Text.forall_plain
        (P := fun c => inUser c = false → isServerChar c = true)
        (by decide) hPlain hOut
  rw [readUser, String.toList_ofList, List.mem_append] at hc
  rcases hc with hName | hPassword
  · exact hEncode _ c hName
  · split at hPassword
    · cases hPassword
    · rcases List.mem_cons.mp hPassword with rfl | hMem
      · decide
      · exact hEncode _ c hMem

/- A port has sixteen bits, and the usual one is left out. -/
theorem readPort_cases
    {scheme : String}
    {cs : List Char}
    {p : Nat}
    (hRead : readPort scheme cs = .ok (some p)) :
    p ≤ 65535 ∧ usualPort? scheme ≠ some p := by
  rw [readPort] at hRead
  split at hRead
  · cases hRead
  · rename_i hFits
    simp only [Bool.or_eq_true, decide_eq_true_eq, not_or,
      Nat.not_lt] at hFits
    split at hRead
    · cases hRead
    · rename_i hKept
      cases hRead
      simp only [Bool.or_eq_true, beq_iff_eq, not_or] at hKept
      exact ⟨hFits.2, hKept.2⟩

/- The port behind a host, and the end of the text. -/
theorem takePort_cases
    {scheme : String}
    {cs rest : List Char}
    {port : Option Nat}
    (hTake : takePort scheme cs = .ok (port, rest)) :
    (∀ p ∈ port, p ≤ 65535 ∧ usualPort? scheme ≠ some p) ∧ rest <:+ cs ∧
      (cs.head? ≠ some ':' → port = none) := by
  rw [takePort.eq_def] at hTake
  split at hTake
  · rename_i digits
    dsimp only at hTake
    simp only [bind, Except.bind, pure, Except.pure] at hTake
    split at hTake
    · cases hTake
    · rename_i found hFound
      cases hTake
      refine ⟨?_, ?_, fun hColon => absurd rfl hColon⟩
      · rintro p rfl
        exact readPort_cases hFound
      · exact (List.dropWhile_suffix _).trans (List.suffix_cons _ _)
  · cases hTake
    refine ⟨?_, List.suffix_refl _, fun _ => rfl⟩
    intro p hp
    cases hp

/- What follows a host ends the text. -/
theorem splitHost_suffix
    (kind : Kind)
    (bracket : Bool)
    (cs : List Char) :
    (splitHost kind bracket cs).2 <:+ cs := by
  induction cs generalizing bracket with
  | nil => exact List.suffix_refl []
  | cons c cs ih =>
      rw [splitHost]
      split
      · exact List.suffix_refl _
      · exact (ih _).trans (List.suffix_cons c cs)

/- Only a special scheme needs a host. -/
theorem isSpecial_of_readHost_eq_none
    {kind : Kind}
    {cs : List Char}
    (hRead : readHost kind cs = .ok none) :
    kind.isSpecial = false := by
  rw [readHost] at hRead
  split at hRead
  · split at hRead
    · cases hRead
    · rename_i hOther
      exact eq_false_of_ne_true hOther
  · split at hRead
    · cases hDomain : readDomain cs with
      | error e =>
          rw [hDomain] at hRead
          cases hRead
      | ok found =>
          rw [hDomain] at hRead
          cases hRead
    · rename_i hOther
      exact eq_false_of_ne_true hOther

/-
  An authority that is taken: the name of a user that was read, and
  behind it a host and a port.  Without a host there is neither.
-/
theorem exists_of_takeAuthority
    {scheme : String}
    {cs rest : List Char}
    {a : Authority}
    (hTake : takeAuthority scheme cs = .ok (a, rest)) :
    ∃ text server,
      server <:+ cs ∧ a.user = readUser text ∧
      readHost (.ofScheme scheme)
        (splitHost (.ofScheme scheme) false server).1 = .ok a.host ∧
      takePort scheme (splitHost (.ofScheme scheme) false server).2 =
        .ok (a.port, rest) ∧
      (a.host = none → a.user = "" ∧
        (splitHost (.ofScheme scheme) false server).2.head? ≠ some ':') := by
  rw [takeAuthority] at hTake
  simp only [bind, Except.bind, pure, Except.pure, throw, throwThe,
    MonadExceptOf.throw] at hTake
  split at hTake
  · cases hTake
  · split at hTake
    · cases hTake
    · rename_i host hHost
      split at hTake
      · cases hTake
      · rename_i hColon
        split at hTake
        · cases hTake
        · rename_i found hPort
          split at hTake
          · cases hTake
          · rename_i hUser
            cases hTake
            refine ⟨_, _, List.drop_suffix _ _, rfl, hHost, hPort, ?_⟩
            rintro rfl
            refine ⟨by simpa using hUser, fun hHead => hColon ?_⟩
            rw [hHead]
            rfl

/- An authority that is taken is sound. -/
theorem takeAuthority_cases
    {scheme : String}
    {cs rest : List Char}
    {a : Authority}
    (hFiles : Kind.ofScheme scheme ≠ .file)
    (hTake : takeAuthority scheme cs = .ok (a, rest)) :
    a.IsSound scheme ∧ rest <:+ cs ∧
      (Kind.ofScheme scheme = .web → a.host.isSome = true) := by
  rcases exists_of_takeAuthority hTake with
    ⟨text, server, hServer, hUser, hHost, hPort, hAlone⟩
  rcases takePort_cases hPort with ⟨hSmall, hSuffix, hNoPort⟩
  refine ⟨⟨?_, ?_, fun p hp => (hSmall p hp).1, ?_⟩, ?_, ?_⟩
  · intro c hc
    rw [hUser] at hc
    exact isServerChar_of_mem_readUser hc
  · intro h hSome
    rw [hSome] at hHost
    exact isHost_of_readHost hHost
  · rintro (hNone | hFile)
    · exact ⟨(hAlone hNone).1, hNoPort (hAlone hNone).2⟩
    · exact absurd hFile hFiles
  · exact (hSuffix.trans (splitHost_suffix _ _ _)).trans hServer
  · intro hWeb
    cases h : a.host with
    | some host => rfl
    | none =>
        rw [h] at hHost
        have hOther := isSpecial_of_readHost_eq_none hHost
        rw [hWeb] at hOther
        cases hOther

------------------------------------------------------------
-- URLs
------------------------------------------------------------

variable {scheme : String}
variable {authority : Option Authority}
variable {path : List Char}

/-
  What stands in front of a query: a path from the root, unless
  the scheme is not special.
-/
structure IsFront
    (scheme : String)
    (authority : Option Authority)
    (path : List Char) : Prop where
  isScheme : IsScheme scheme
  isSound : ∀ a ∈ authority, a.IsSound scheme
  hasServer : Kind.ofScheme scheme ≠ .other → authority.isSome = true
  hasHost : Kind.ofScheme scheme = .web →
    ∃ a, authority = some a ∧ a.host.isSome = true
  isPath : IsPath path
  isRooted : Kind.ofScheme scheme ≠ .other → IsRooted path
  served : authority.isSome = true → path = [] ∨ IsRooted path

/-
  A URL whose parts hold what may stand in them.  `asked` says
  that there may be a query.
-/
structure IsSound (asked : Bool) (u : Url) : Prop where
  front : IsFront u.scheme u.authority u.path
  query : asked = false → u.query = none
  fragment : ∀ f ∈ u.fragment, ∀ c ∈ f,
    isControl c = false ∧ (asked = false → c ≠ '?')

variable {asked : Bool}
variable {base : Url}

/- The authority of a URL of the web has a host. -/
theorem IsFront.isSome_host
    {a : Authority}
    (hFront : IsFront scheme authority path)
    (hServer : authority = some a)
    (hWeb : Kind.ofScheme scheme = .web) :
    a.host.isSome = true := by
  rcases hFront.hasHost hWeb with ⟨b, hSome, hHost⟩
  rw [hServer] at hSome
  cases hSome
  exact hHost

/- The end of a text asks nothing if the text does not. -/
theorem not_mem_of_suffix
    {cs rest : List Char}
    (hAsked : asked = false → '?' ∉ cs)
    (hSuffix : rest <:+ cs) :
    asked = false → '?' ∉ rest :=
  fun hNone hMem => hAsked hNone (hSuffix.subset hMem)

/- Another path from the root behind the same authority. -/
theorem IsFront.withPath
    {other : List Char}
    (hFront : IsFront scheme authority path)
    (hOther : IsPath other)
    (hRooted : IsRooted other) :
    IsFront scheme authority other :=
  ⟨hFront.isScheme, hFront.isSound, hFront.hasServer, hFront.hasHost, hOther,
    fun _ => hRooted, fun _ => .inr hRooted⟩

/- The characters of an encoded fragment. -/
theorem isControl_of_mem_fragment
    {rest : List Char}
    (hAsked : asked = false → '?' ∉ rest) :
    ∀ c ∈ encode inFragment rest,
      isControl c = false ∧ (asked = false → c ≠ '?') := by
  apply forall_mem_encode
  · exact ⟨by decide, fun _ => by decide⟩
  · cases asked <;> decide
  · intro d hMem hOut
    rw [inFragment, Bool.or_eq_false_iff] at hOut
    refine ⟨hOut.1, fun hNone => ?_⟩
    rintro rfl
    exact hAsked hNone hMem

/- The end of a text that asks nothing has no query. -/
theorem readEnd_cases
    (kind : Kind)
    {rest : List Char}
    (hAsked : asked = false → '?' ∉ rest) :
    (asked = false → (readEnd kind rest).1 = none) ∧
      ∀ f ∈ (readEnd kind rest).2, ∀ c ∈ f,
        isControl c = false ∧ (asked = false → c ≠ '?') := by
  rw [readEnd.eq_def]
  split
  · rename_i more
    have hNever : asked ≠ false := fun hNone =>
      hAsked hNone List.mem_cons_self
    refine ⟨fun hNone => absurd hNone hNever, ?_⟩
    intro f hf
    dsimp only at hf
    split at hf
    · cases hf
      exact isControl_of_mem_fragment fun hNone => absurd hNone hNever
    · cases hf
  · rename_i more
    refine ⟨fun _ => rfl, ?_⟩
    rintro f ⟨⟩
    apply isControl_of_mem_fragment
    intro hNone hMem
    exact hAsked hNone (List.mem_cons_of_mem _ hMem)
  · refine ⟨fun _ => rfl, ?_⟩
    rintro f ⟨⟩

/- The end of a text becomes a query and a fragment. -/
theorem IsFront.isSound_finish
    {rest : List Char}
    (hFront : IsFront scheme authority path)
    (hAsked : asked = false → '?' ∉ rest) :
    IsSound asked (finish scheme authority path rest) :=
  have hEnd := readEnd_cases (.ofScheme scheme) hAsked
  ⟨hFront, hEnd.1, hEnd.2⟩

/- Another fragment. -/
theorem IsSound.withFragment
    {rest : List Char}
    (hBase : IsSound asked base)
    (hAsked : asked = false → '?' ∉ rest) :
    IsSound asked (withFragment base rest) := by
  refine ⟨hBase.front, hBase.query, ?_⟩
  rintro f ⟨⟩
  exact isControl_of_mem_fragment hAsked

/- No fragment. -/
theorem IsSound.dropFragment (hBase : IsSound asked base) :
    IsSound asked base.dropFragment := by
  refine ⟨hBase.front, hBase.query, ?_⟩
  rintro f ⟨⟩

------------------------------------------------------------
-- Reading
------------------------------------------------------------

variable {cs : List Char}
variable {u : Url}

/- What stands behind two slashes. -/
theorem isSound_readServer
    (hScheme : IsScheme scheme)
    (hFiles : Kind.ofScheme scheme ≠ .file)
    (hAsked : asked = false → '?' ∉ cs)
    (hRead : readServer scheme cs = .ok u) :
    IsSound asked u := by
  rcases exists_of_readServer hRead with ⟨a, rest, hTake, rfl⟩
  rcases takeAuthority_cases hFiles hTake with ⟨hSound, hSuffix, hHost⟩
  have hStart :=
    isRooted_readPathStart (.ofScheme scheme) true rest
  refine IsFront.isSound_finish
    ⟨hScheme, ?_, fun _ => rfl, ?_, ?_, ?_, ?_⟩ ?_
  · rintro b ⟨⟩
    exact hSound
  · exact fun hWeb => ⟨a, rfl, hHost hWeb⟩
  · exact isPath_readPathStart _ true rest
  · intro hSpecial
    rcases hStart with ⟨hOther, _⟩ | hRooted
    · rw [Kind.isSpecial, bne_eq_false_iff_eq] at hOther
      exact absurd hOther hSpecial
    · exact hRooted
  · exact fun _ => hStart.imp And.right id
  · exact not_mem_of_suffix hAsked
      ((readPathStart_suffix _ true rest).trans hSuffix)

/- What stands behind a scheme that is not special. -/
theorem isSound_readOther
    (hScheme : IsScheme scheme)
    (hOther : Kind.ofScheme scheme = .other)
    (hAsked : asked = false → '?' ∉ cs)
    (hRead : readOther scheme cs = .ok u) :
    IsSound asked u := by
  have hFlat :
      ∀ {path : List Char}, IsPath path → IsFront scheme none path := by
    intro path hPath
    refine ⟨hScheme, ?_, fun hSpecial => absurd hOther hSpecial, ?_,
      hPath, ?_, ?_⟩
    · rintro a ⟨⟩
    · intro hWeb
      rw [hOther] at hWeb
      cases hWeb
    · exact fun hSpecial => absurd hOther hSpecial
    · rintro ⟨⟩
  cases otherRead_of_readOther hRead with
  | server hRest hRead =>
      refine isSound_readServer hScheme ?_
        (not_mem_of_suffix hAsked hRest) hRead
      rw [hOther]
      decide
  | @root rest hRest =>
      exact IsFront.isSound_finish
        (hFlat (isPath_readPath .other true rest isPath_slash))
        (not_mem_of_suffix hAsked
          ((readPath_suffix .other true _ rest).trans hRest))
  | flat _ =>
      refine IsFront.isSound_finish (hFlat ?_)
        (not_mem_of_suffix hAsked (List.dropWhile_suffix _))
      apply forall_mem_encode
      · decide
      · decide
      · intro d hMem hControl
        have hEnd := List.mem_takeWhile_imp hMem
        rw [Bool.not_eq_true', Bool.or_eq_false_iff] at hEnd
        rw [isPathChar, hControl]
        exact bne_iff_ne.mpr (beq_eq_false_iff_ne.mp hEnd.1)

/- A path without its last segment starts at the root. -/
theorem isRooted_dropLast
    {kind : Kind}
    (hRooted : IsRooted path) :
    IsRooted (dropLast kind path) := by
  rw [dropLast]
  split
  · exact hRooted
  · exact hRooted.upToSlash

theorem dropLast_nil (kind : Kind) : dropLast kind [] = [] := by
  cases kind <;> rfl

theorem IsPath.dropLast
    (hPath : IsPath path)
    (kind : Kind) :
    IsPath (dropLast kind path) := by
  rw [Url.dropLast]
  split
  · exact hPath
  · exact hPath.mono (upToSlash_isPrefix path).subset

/- A text in the place of a URL that is not of files. -/
theorem isSound_readRelative
    (hBase : IsSound asked base)
    (hFiles : base.kind ≠ .file)
    (hRooted : base.path = [] ∨ IsRooted base.path)
    (hAsked : asked = false → '?' ∉ cs)
    (hRead : readRelative base cs = .ok u) :
    IsSound asked u := by
  have hPath :
      ∀ {start rest : List Char}, IsPath start → IsRooted start →
        rest <:+ cs →
        IsSound asked
          (finish base.scheme base.authority
            (readPath base.kind true start rest).1.path
            (readPath base.kind true start rest).2) := by
    intro start rest hStart hRoot hSuffix
    refine IsFront.isSound_finish (hBase.front.withPath
      (isPath_readPath _ true rest hStart)
      (isRooted_readPath _ true rest (.inr hRoot))) ?_
    exact not_mem_of_suffix hAsked
      ((readPath_suffix _ true start rest).trans hSuffix)
  cases relativeRead_of_readRelative hRead with
  | same => exact hBase.dropFragment
  | fragment hRest =>
      exact hBase.withFragment (not_mem_of_suffix hAsked hRest)
  | query => exact IsFront.isSound_finish hBase.front hAsked
  | server hRest hRead =>
      exact isSound_readServer hBase.front.isScheme hFiles
        (not_mem_of_suffix hAsked hRest) hRead
  | root hRest => exact hPath isPath_slash rfl hRest
  | last hStart =>
      refine hPath (hBase.front.isPath.dropLast base.kind) ?_
        (List.suffix_refl _)
      rcases hRooted with hNone | hRoot
      · rw [hNone, dropLast_nil] at hStart
        exact absurd rfl hStart
      · exact isRooted_dropLast hRoot

/- The scheme of files is a scheme. -/
theorem isScheme_file : IsScheme "file" := by
  refine ⟨⟨'f', ['i', 'l', 'e'], by decide⟩,
    List.all_eq_true.mp (by decide), ?_⟩
  apply String.toList_injective
  rw [toList_toLower]
  decide

/- A path of files behind a host, or behind none. -/
theorem isFront_fileAuthority
    {host : Option Host}
    (hHost : ∀ h ∈ host, IsHost .file h)
    (hPath : IsPath path)
    (hRooted : IsRooted path) :
    IsFront "file" (fileAuthority host) path := by
  refine ⟨isScheme_file, ?_, fun _ => rfl, ?_, hPath, fun _ => hRooted,
    fun _ => .inr hRooted⟩
  · rintro a ⟨⟩
    exact ⟨by simp, hHost, nofun, fun _ => ⟨rfl, rfl⟩⟩
  · intro hWeb
    exact absurd hWeb (by decide)

/- A path of files that is read behind a host, or behind none. -/
theorem isSound_filePath
    {host : Option Host}
    {rest : List Char}
    (keepsHost : Bool)
    (hHost : ∀ h ∈ host, IsHost .file h)
    (hPath : IsPath path)
    (hAsked : asked = false → '?' ∉ rest) :
    IsSound asked
      (finish "file" (fileAuthority host)
        (readPath .file keepsHost path rest).1.path
        (readPath .file keepsHost path rest).2) := by
  refine IsFront.isSound_finish (isFront_fileAuthority hHost
    (isPath_readPath _ keepsHost rest hPath)
    (isRooted_readPath _ keepsHost rest (.inl rfl))) ?_
  exact fun hNone hMem =>
    hAsked hNone ((readPath_suffix _ keepsHost path rest).subset hMem)

/- What stands behind two slashes in a URL of files. -/
theorem isSound_readFileServer
    (hAsked : asked = false → '?' ∉ cs)
    (hRead : readFileServer cs = .ok u) :
    IsSound asked u := by
  cases fileServerRead_of_readFileServer hRead with
  | own hRest =>
      exact isSound_filePath false nofun isPath_slash
        (not_mem_of_suffix hAsked hRest)
  | @host name rest host hRest hHost _ =>
      refine IsFront.isSound_finish (isFront_fileAuthority ?_
        (isPath_readPathStart _ true rest) ?_)
        (not_mem_of_suffix hAsked
          ((readPathStart_suffix _ true rest).trans hRest))
      · intro h hMem
        split at hMem
        · cases hMem
          exact isHost_of_readDomain rfl hHost
        · cases hMem
      · rcases isRooted_readPathStart .file true rest with
          ⟨hOther, _⟩ | hRooted
        · cases hOther
        · exact hRooted

/- The first segment of a URL holds characters of its path. -/
theorem isPath_firstSegment
    {first : List Char}
    (hPath : IsPath base.path)
    (hFirst : first ∈ (segments? base).bind List.head?) :
    IsPath first := by
  rcases Option.bind_eq_some_iff.mp hFirst with ⟨segments, hAll, hHead⟩
  rw [segments?] at hAll
  split at hAll
  · rename_i rest hRoot
    cases hAll
    refine hPath.mono fun c hc => ?_
    rw [hRoot]
    exact List.mem_cons_of_mem _
      (Text.mem_of_mem_cutAt (List.mem_of_mem_head? hHead) hc)
  · cases hAll

/- A path of files from the root, on the drive or host of the base. -/
theorem RootRead.isSound
    {base : Option Url}
    (hBase : ∀ b ∈ base, IsSound asked b ∧ b.kind = .file)
    (hAsked : asked = false → '?' ∉ cs)
    (hRoot : RootRead base cs u) :
    IsSound asked u := by
  cases hRoot with
  | own => exact isSound_filePath false nofun nofun hAsked
  | drive hMem hFirst =>
      have hSegment := isPath_firstSegment (hBase _ hMem).1.front.isPath hFirst
      exact isSound_filePath false nofun (isPath_slash.append hSegment) hAsked
  | @host b a hMem hServer =>
      rcases hBase b hMem with ⟨hSound, hKind⟩
      have hKnown := (hSound.front.isSound a hServer).host
      rw [← Url.kind, hKind] at hKnown
      exact isSound_filePath false hKnown nofun hAsked

/- A URL of files, or a text in the place of one. -/
theorem isSound_readFile
    {base : Option Url}
    (hBase : ∀ b ∈ base, IsSound asked b ∧ b.kind = .file)
    (hAsked : asked = false → '?' ∉ cs)
    (hRead : readFile base cs = .ok u) :
    IsSound asked u := by
  cases fileRead_of_readFile hRead with
  | server hRest hRead =>
      exact isSound_readFileServer (not_mem_of_suffix hAsked hRest) hRead
  | root hRoot => exact hRoot.isSound hBase hAsked
  | fresh => exact isSound_filePath false nofun isPath_slash hAsked
  | same hMem => exact (hBase _ hMem).1.dropFragment
  | fragment hMem hRest =>
      exact (hBase _ hMem).1.withFragment (not_mem_of_suffix hAsked hRest)
  | query hMem => exact IsFront.isSound_finish (hBase _ hMem).1.front hAsked
  | last hMem =>
      have hFront := (hBase _ hMem).1.front
      exact IsFront.isSound_finish
        (hFront.withPath
          (isPath_readPath .file true _ (hFront.isPath.dropLast .file))
          (isRooted_readPath .file true _ (.inl rfl)))
        (not_mem_of_suffix hAsked (readPath_suffix .file true _ _))

/- What stands behind a scheme. -/
theorem isSound_readScheme
    {base : Option Url}
    (hBase : ∀ b ∈ base, IsSound asked b)
    (hScheme : IsScheme scheme)
    (hAsked : asked = false → '?' ∉ cs)
    (hRead : readScheme base scheme cs = .ok u) :
    IsSound asked u := by
  cases schemeRead_of_readScheme hRead with
  | other hKind hRead => exact isSound_readOther hScheme hKind hAsked hRead
  | file _ hRead =>
      refine isSound_readFile ?_ hAsked hRead
      intro b hb
      rcases Option.mem_filter_iff.mp hb with ⟨hMem, hFile⟩
      refine ⟨hBase b hMem, ?_⟩
      rw [kind, beq_iff_eq.mp hFile]
      decide
  | @relative b _ hKind hMem hSame hRead =>
      have hWeb : b.kind = .web := by
        rw [kind, hSame, hKind]
      refine isSound_readRelative (hBase b hMem) ?_ ?_ hAsked hRead
      · rw [hWeb]
        decide
      · refine .inr ((hBase b hMem).front.isRooted ?_)
        rw [← kind, hWeb]
        decide
  | server hKind hRead =>
      refine isSound_readServer hScheme ?_
        (not_mem_of_suffix hAsked (List.dropWhile_suffix _)) hRead
      rw [hKind]
      decide

/- A cleaned text has no other characters. -/
theorem mem_of_mem_clean
    {c : Char}
    (hc : c ∈ clean cs) :
    c ∈ cs := by
  have hStart := (List.mem_filter.mp hc).1
  rw [List.mem_reverse] at hStart
  have hEnd := (List.dropWhile_suffix _).subset hStart
  rw [List.mem_reverse] at hEnd
  exact (List.dropWhile_suffix _).subset hEnd

/- A path that texts can be resolved against is rooted or empty. -/
theorem IsSound.rooted_of_isFlat
    (hBase : IsSound asked base)
    (hFlat : base.isFlat = false) :
    base.path = [] ∨ IsRooted base.path := by
  cases hServer : base.authority with
  | some a => exact hBase.front.served (Option.isSome_of_eq_some hServer)
  | none =>
      rw [isFlat, hServer, Option.isNone_none, Bool.true_and,
        Bool.not_eq_false'] at hFlat
      rcases Option.isSome_iff_exists.mp hFlat with ⟨rest, hRest⟩
      rw [Text.eq_append_of_dropPrefix? hRest]
      exact .inr rfl

/-
  A URL that is read is sound if the one is in whose place it
  stands, and has no query if neither asks for anything.
-/
theorem isSound_read
    {base : Option Url}
    (hBase : ∀ b ∈ base, IsSound asked b)
    (hAsked : asked = false → '?' ∉ cs)
    (hRead : read base cs = .ok u) :
    IsSound asked u := by
  have hClean : asked = false → '?' ∉ clean cs := fun hNone hMem =>
    hAsked hNone (mem_of_mem_clean hMem)
  cases textRead_of_read hRead with
  | scheme hTake hRead =>
      exact isSound_readScheme hBase (isScheme_of_takeScheme? hTake)
        (not_mem_of_suffix hClean (takeScheme?_suffix hTake)) hRead
  | fragment hMem hRest =>
      exact (hBase _ hMem).withFragment (not_mem_of_suffix hClean hRest)
  | file hMem hFile hRead =>
      refine isSound_readFile ?_ hClean hRead
      rintro _ ⟨⟩
      exact ⟨hBase _ hMem, hFile⟩
  | relative hMem hFiles hFlat hRead =>
      have hSound := hBase _ hMem
      exact isSound_readRelative hSound hFiles
        (hSound.rooted_of_isFlat hFlat) hClean hRead

/- A URL that a text is, which asks nothing if the text does not. -/
theorem isSound_of_parse
    {s : String}
    {u : Url}
    (hAsked : asked = false → '?' ∉ s.toList)
    (hParse : parse s = .ok u) :
    IsSound asked u := by
  refine isSound_read ?_ hAsked hParse
  rintro b ⟨⟩

end Url

end Gleaner
