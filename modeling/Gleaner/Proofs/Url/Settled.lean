import Gleaner.Proofs.Url.Level
import Gleaner.Proofs.Url.ReadBack

/-
  What reading brings the parts of a URL into: a second reading
  finds no character to encode and no usual port, and finds level
  paths unless they are those of files on a drive.

  Main declarations:
    * `Url.Authority.IsSettled`
    * `Url.IsSettled`
    * `Url.IsWeb`
    * `Url.isSettled_read`
-/

namespace Gleaner

namespace Url

variable {kind : Kind}
variable {scheme : String}
variable {authority : Option Authority}
variable {path cs rest : List Char}
variable {u : Url}

------------------------------------------------------------
-- Authorities
------------------------------------------------------------

/-
  An authority whose user is encoded, and whose port is not the
  usual one.  Files of this computer have no host.
-/
structure Authority.IsSettled (scheme : String) (a : Authority) :
    Prop where
  user : readUser a.user.toList = a.user
  port : ∀ p ∈ a.port, usualPort? scheme ≠ some p
  away : Kind.ofScheme scheme = .file → a.host ≠ some (.name "localhost")

/- No character of a set is left in an encoded text. -/
theorem not_mem_encode
    {isIn : Char → Bool}
    (hPercent : isIn '%' = false)
    (hDigit : ∀ n < 128,
      Text.isHexDigit (Char.ofNat n) = true → isIn (Char.ofNat n) = false)
    (cs : List Char) :
    ∀ c ∈ encode isIn cs, isIn c = false :=
  forall_mem_encode hPercent hDigit fun _ _ hOut => hOut

/- The characters of users are not encoded twice. -/
theorem not_inUser_of_mem_encode (cs : List Char) :
    ∀ c ∈ encode inUser cs, inUser c = false :=
  not_mem_encode (by decide) (by decide) cs

/-
  A name and a password are read as they stand: the name holds no
  colon, so that the password is found again.
-/
theorem readUser_append
    {name password : List Char}
    (hName : ∀ c ∈ name, inUser c = false)
    (hPassword : ∀ c ∈ password, inUser c = false) :
    readUser (name ++ (if password.isEmpty then [] else ':' :: password)) =
      String.ofList
        (name ++ (if password.isEmpty then [] else ':' :: password)) := by
  have hInside : ∀ c ∈ name, (c != ':') = true := by
    intro c hc
    rw [bne_iff_ne]
    rintro rfl
    exact absurd (hName ':' hc) (by decide)
  have hStop :
      ∀ c ∈ (if password.isEmpty then [] else ':' :: password).head?,
        (c != ':') = false := by
    intro c hc
    split at hc
    · cases hc
    · cases hc
      rfl
  rw [readUser, Text.takeWhile_append_of_stop hInside hStop,
    Text.dropWhile_append_of_stop hInside hStop, encode_of_not_mem hName]
  cases password with
  | nil => rfl
  | cons c password =>
      rw [List.isEmpty_cons, if_neg Bool.false_ne_true, List.drop_one,
        List.tail_cons, encode_of_not_mem hPassword]
      rfl

/- The name of a user that was read is read as it stands. -/
theorem readUser_readUser (cs : List Char) :
    readUser (readUser cs).toList = readUser cs := by
  have hText :
      (readUser cs).toList =
        encode inUser (cs.takeWhile (· != ':')) ++
          (if (encode inUser ((cs.dropWhile (· != ':')).drop 1)).isEmpty
            then []
            else ':' :: encode inUser ((cs.dropWhile (· != ':')).drop 1)) :=
    String.toList_ofList
  rw [hText]
  exact readUser_append (not_inUser_of_mem_encode _)
    (not_inUser_of_mem_encode _)

/- An authority that is taken is settled. -/
theorem isSettled_takeAuthority
    {a : Authority}
    (hFiles : Kind.ofScheme scheme ≠ .file)
    (hTake : takeAuthority scheme cs = .ok (a, rest)) :
    a.IsSettled scheme := by
  rcases exists_of_takeAuthority hTake with
    ⟨text, server, _, hUser, _, hPort, _⟩
  refine ⟨?_, ?_, fun hFile => absurd hFile hFiles⟩
  · rw [hUser, readUser_readUser]
  · exact fun p hp => ((takePort_cases hPort).1 p hp).2

------------------------------------------------------------
-- URLs
------------------------------------------------------------

/- A path from the root that was read. -/
structure IsSettledPath (kind : Kind) (path : List Char) : Prop where
  written : ∀ c ∈ path, IsWritten kind c
  steady : IsSteady kind path
  single : kind = .file → Text.startsWith ['/', '/'] path = false

/-
  A flat path ends where the text ends only if no low character
  does.
-/
structure IsSettledFlat (u : Url) : Prop where
  noFragment : '#' ∉ u.path
  ends : u.query = none → u.fragment = none →
    ∀ c ∈ u.path.getLast?, isLow c = false

/- A URL whose parts are as reading leaves them. -/
structure IsSettled (u : Url) : Prop where
  server : ∀ a ∈ u.authority, a.IsSettled u.scheme
  path : u.isFlat = false → IsSettledPath u.kind u.path
  flat : u.isFlat = true → IsSettledFlat u
  query : ∀ q ∈ u.query, ∀ c ∈ q, inQuery u.kind.isSpecial c = false
  fragment : ∀ f ∈ u.fragment, ∀ c ∈ f, inFragment c = false

/- A URL with an authority has no flat path. -/
theorem isFlat_of_isSome (hServer : u.authority.isSome = true) :
    u.isFlat = false := by
  rw [isFlat, ← Option.not_isSome, hServer]
  rfl

/- The characters of fragments are not encoded twice. -/
theorem not_inFragment_of_mem_encode (cs : List Char) :
    ∀ c ∈ encode inFragment cs, inFragment c = false :=
  not_mem_encode (by decide) (by decide) cs

/- The end of a text is encoded. -/
theorem not_mem_readEnd (kind : Kind) (rest : List Char) :
    (∀ q ∈ (readEnd kind rest).1, ∀ c ∈ q,
        inQuery kind.isSpecial c = false) ∧
      ∀ f ∈ (readEnd kind rest).2, ∀ c ∈ f, inFragment c = false := by
  have hQuery :
      ∀ text : List Char, ∀ c ∈ encode (inQuery kind.isSpecial) text,
        inQuery kind.isSpecial c = false := by
    apply not_mem_encode
    · cases kind <;> decide
    · cases kind <;> decide
  rw [readEnd.eq_def]
  split
  · refine ⟨?_, ?_⟩
    · rintro q ⟨⟩
      exact hQuery _
    · intro f hf
      dsimp only at hf
      split at hf
      · cases hf
        exact not_inFragment_of_mem_encode _
      · cases hf
  · refine ⟨?_, ?_⟩
    · rintro q ⟨⟩
    · rintro f ⟨⟩
      exact not_inFragment_of_mem_encode _
  · refine ⟨?_, ?_⟩
    · rintro q ⟨⟩
    · rintro f ⟨⟩

/- The end of a text becomes the query and the fragment of a URL. -/
theorem isSettled_finish
    (hServer : ∀ a ∈ authority, a.IsSettled scheme)
    (hPath : (finish scheme authority path rest).isFlat = false →
      IsSettledPath (.ofScheme scheme) path)
    (hFlat : (finish scheme authority path rest).isFlat = true →
      IsSettledFlat (finish scheme authority path rest)) :
    IsSettled (finish scheme authority path rest) :=
  have hEnd := not_mem_readEnd (.ofScheme scheme) rest
  ⟨hServer, hPath, hFlat, hEnd.1, hEnd.2⟩

/- A path behind an open start is settled. -/
theorem isSettledPath_readPath
    (keepsHost : Bool)
    (input : List Char)
    (hWritten : ∀ c ∈ path, IsWritten kind c)
    (hSteady : IsSteady kind path)
    (hOpen : IsOpen path) :
    IsSettledPath kind (readPath kind keepsHost path input).1.path := by
  refine ⟨(isClass_isWritten kind).readPath keepsHost input hWritten,
    hSteady.readPath keepsHost input hOpen, ?_⟩
  rintro rfl
  have hStop :=
    List.head?_dropWhile_not (· == '/')
      (readSegments .file ⟨path, keepsHost⟩ [] input).1.path
  show Text.startsWith ['/', '/']
    ('/' :: (readSegments .file ⟨path, keepsHost⟩ []
      input).1.path.dropWhile (· == '/')) = false
  cases hRest : (readSegments .file ⟨path, keepsHost⟩ []
      input).1.path.dropWhile (· == '/') with
  | nil => rfl
  | cons c rest =>
      rw [hRest] at hStop
      have hOther : c ≠ '/' := beq_eq_false_iff_ne.mp hStop
      simp [Text.startsWith, Text.dropPrefix?, hOther.symm]

/- A path behind the root is settled. -/
theorem isSettledPath_root
    (kind : Kind)
    (keepsHost : Bool)
    (input : List Char) :
    IsSettledPath kind (readPath kind keepsHost ['/'] input).1.path := by
  apply isSettledPath_readPath
  · exact List.forall_mem_singleton.mpr (isClass_isWritten kind).slash
  · exact isSteady_root kind
  · exact isOpen_concat []

/- The path behind an authority is settled. -/
theorem isSettledPath_readPathStart
    (kind : Kind)
    (keepsHost : Bool)
    (input : List Char) :
    IsSettledPath kind (readPathStart kind keepsHost input).1.path := by
  have hNone : IsSettledPath kind [] :=
    ⟨List.forall_mem_nil _, .inl isLevel_nil, fun _ => rfl⟩
  rw [readPathStart.eq_def]
  split
  · split
    · exact isSettledPath_root kind keepsHost []
    · exact hNone
  · split
    · exact isSettledPath_root kind keepsHost _
    · split
      · exact hNone
      · exact isSettledPath_root kind keepsHost _

/- A URL with an authority is settled if its parts are. -/
theorem isSettled_served
    {a : Authority}
    (hServer : a.IsSettled scheme)
    (hPath : IsSettledPath (.ofScheme scheme) path) :
    IsSettled (finish scheme (some a) path rest) := by
  apply isSettled_finish
  · rintro b ⟨⟩
    exact hServer
  · exact fun _ => hPath
  · rintro ⟨⟩

------------------------------------------------------------
-- Reading
------------------------------------------------------------

/- What stands behind two slashes. -/
theorem isSettled_readServer
    (hFiles : Kind.ofScheme scheme ≠ .file)
    (hRead : readServer scheme cs = .ok u) :
    IsSettled u := by
  rcases exists_of_readServer hRead with ⟨a, rest, hTake, rfl⟩
  exact isSettled_served (isSettled_takeAuthority hFiles hTake)
    (isSettledPath_readPathStart _ true rest)

/- A text that is rooted starts with a slash. -/
theorem startsWith_slash_iff :
    Text.startsWith ['/'] path = true ↔ IsRooted path := by
  cases path with
  | nil => simp [Text.startsWith, Text.dropPrefix?, IsRooted]
  | cons c path =>
      by_cases hSlash : c = '/'
      · simp [Text.startsWith, Text.dropPrefix?, IsRooted, hSlash]
      · simp [Text.startsWith, Text.dropPrefix?, IsRooted, hSlash,
          Ne.symm hSlash]

/- A path without an authority is flat unless it is rooted. -/
theorem isFlat_finish
    (scheme : String)
    (path rest : List Char) :
    (finish scheme none path rest).isFlat = true ↔ ¬IsRooted path := by
  rw [← startsWith_slash_iff]
  simp [isFlat, finish]

section Ends

variable {isIn : Char → Bool}
variable {c : Char}

/- The first character of an encoded text comes from the first one. -/
theorem exists_of_head?_encode
    (hc : c ∈ (encode isIn cs).head?) :
    ∃ d ∈ cs.head?, c ∈ encode isIn [d] := by
  cases cs with
  | nil => cases hc
  | cons d cs =>
      refine ⟨d, rfl, List.mem_of_mem_head? ?_⟩
      have hSome : encode isIn [d] ≠ [] :=
        encode_ne_nil (List.cons_ne_nil d [])
      rw [← List.singleton_append, encode, List.flatMap_append] at hc
      rwa [← List.head?_append_of_ne_nil _ hSome]

/- The last character of an encoded text comes from the last one. -/
theorem exists_of_getLast?_encode
    (hc : c ∈ (encode isIn cs).getLast?) :
    ∃ d ∈ cs.getLast?, c ∈ encode isIn [d] := by
  rcases List.eq_nil_or_concat' cs with rfl | ⟨before, d, rfl⟩
  · cases hc
  · refine ⟨d, List.getLast?_concat, List.mem_of_getLast? ?_⟩
    have hSome : encode isIn [d] ≠ [] :=
      encode_ne_nil (List.cons_ne_nil d [])
    rw [encode, List.flatMap_append] at hc
    rwa [← List.getLast?_append_of_ne_nil _ hSome]

end Ends

/- Without a query and a fragment, nothing stands behind a path. -/
theorem takeWhile_eq_self_of_readEnd
    {kind : Kind}
    (hEnd :
      readEnd kind (cs.dropWhile fun c => !(c == '?' || c == '#')) =
        (none, none)) :
    cs.takeWhile (fun c => !(c == '?' || c == '#')) = cs := by
  rw [List.takeWhile_eq_self_iff, ← List.dropWhile_eq_nil_iff]
  have hStop :=
    List.head?_dropWhile_not (fun c => !(c == '?' || c == '#')) cs
  cases hDrop : cs.dropWhile fun c => !(c == '?' || c == '#') with
  | nil => rfl
  | cons d rest =>
      rw [hDrop] at hEnd hStop
      have hMark : (!(d == '?' || d == '#')) = false := hStop
      rw [Bool.not_eq_false', Bool.or_eq_true, beq_iff_eq,
        beq_iff_eq] at hMark
      rcases hMark with rfl | rfl
      · cases hEnd
      · cases hEnd

/- A path that does not start at the root is settled as it is. -/
theorem isSettledFlat_finish
    (scheme : String)
    (hEnd : ∀ c ∈ cs.getLast?, isLow c = false) :
    IsSettledFlat
      (finish scheme none
        (encode isControl (cs.takeWhile fun c => !(c == '?' || c == '#')))
        (cs.dropWhile fun c => !(c == '?' || c == '#'))) := by
  constructor
  · intro hMem
    rcases mem_encode_cases hMem with ⟨hTaken, _⟩ | hPercent | hDigit
    · exact absurd (List.mem_takeWhile_imp hTaken) (by decide)
    · cases hPercent
    · cases hDigit
  · intro hQuery hFragment c hc
    have hAll := takeWhile_eq_self_of_readEnd (Prod.ext hQuery hFragment)
    rw [finish, hAll] at hc
    rcases exists_of_getLast?_encode hc with ⟨d, hd, hMem⟩
    have hLast : isLow d = false := hEnd d hd
    rcases mem_encode_cases hMem with ⟨hSame, _⟩ | rfl | hDigit
    · rwa [List.mem_singleton.mp hSame]
    · decide
    · exact Text.forall_hexDigit (P := (isLow · = false)) (by decide) hDigit

/- A slash in front of a path stands in front of the text, too. -/
theorem not_isRooted_encode_takeWhile
    {isKept : Char → Bool}
    (hSlash : ∀ rest, cs ≠ '/' :: rest) :
    ¬IsRooted (encode isControl (cs.takeWhile isKept)) := by
  intro hRooted
  rcases exists_of_head?_encode hRooted with ⟨d, hd, hMem⟩
  rcases mem_encode_cases hMem with ⟨hSame, _⟩ | hPercent | hDigit
  · rw [← List.mem_singleton.mp hSame] at hd
    cases cs with
    | nil => cases hd
    | cons c cs =>
        rw [List.takeWhile_cons] at hd
        split at hd
        · cases hd
          exact absurd rfl (hSlash cs)
        · cases hd
  · cases hPercent
  · cases hDigit

/- What stands behind a scheme that is not special. -/
theorem isSettled_readOther
    (hOther : Kind.ofScheme scheme = .other)
    (hEnd : ∀ c ∈ cs.getLast?, isLow c = false)
    (hRead : readOther scheme cs = .ok u) :
    IsSettled u := by
  cases otherRead_of_readOther hRead with
  | server _ hRead =>
      refine isSettled_readServer ?_ hRead
      rw [hOther]
      decide
  | @root rest _ =>
      refine isSettled_finish nofun ?_ ?_
      · rw [hOther]
        exact fun _ => isSettledPath_root .other true rest
      · intro hFlat
        rw [isFlat_finish] at hFlat
        have hRoot : IsRooted ['/'] := rfl
        exact absurd (isRooted_readPath .other true rest (.inr hRoot)) hFlat
  | flat hSlash =>
      refine isSettled_finish nofun ?_
        fun _ => isSettledFlat_finish scheme hEnd
      intro hRooted
      rw [← Bool.not_eq_true, isFlat_finish, not_not] at hRooted
      exact absurd hRooted (not_isRooted_encode_takeWhile hSlash)

/- A path of files behind a host from elsewhere, or behind none. -/
theorem isSettled_files
    {host : Option Host}
    (hAway : host ≠ some (.name "localhost"))
    (hPath : IsSettledPath .file path) :
    IsSettled (finish "file" (fileAuthority host) path rest) :=
  have hNobody : readUser "".toList = "" := by decide
  isSettled_served ⟨hNobody, nofun, fun _ => hAway⟩ hPath

/- A path of files on no host. -/
theorem isSettled_ownFiles
    (hPath : IsSettledPath .file path) :
    IsSettled (finish "file" (fileAuthority none) path rest) :=
  isSettled_files (Option.some_ne_none _).symm hPath

/- What stands behind two slashes in a URL of files. -/
theorem isSettled_readFileServer
    (hRead : readFileServer cs = .ok u) :
    IsSettled u := by
  cases fileServerRead_of_readFileServer hRead with
  | own _ => exact isSettled_ownFiles (isSettledPath_root .file false _)
  | host _ _ hAway =>
      refine isSettled_files ?_ (isSettledPath_readPathStart .file true _)
      split
      · exact fun hSame => hAway (Option.some.inj hSame)
      · exact (Option.some_ne_none _).symm

/- A URL of files that stands alone. -/
theorem isSettled_readFile
    (hRead : readFile none cs = .ok u) :
    IsSettled u := by
  cases fileRead_of_readFile hRead with
  | server _ hRead => exact isSettled_readFileServer hRead
  | root hRoot =>
      cases hRoot with
      | own =>
          exact isSettled_ownFiles
            (isSettledPath_readPath false cs (List.forall_mem_nil _)
              (.inl isLevel_nil) (.inl rfl))
      | drive hBase _ => cases hBase
      | host hBase _ => cases hBase
  | fresh => exact isSettled_ownFiles (isSettledPath_root .file false cs)
  | same hBase => cases hBase
  | fragment hBase _ => cases hBase
  | query hBase => cases hBase
  | last hBase => cases hBase

/-
  A page of the web: it has a server, and the path in which others
  are resolved starts at the root.
-/
structure IsWeb (u : Url) : Prop where
  isWeb : u.kind = .web
  isServed : u.authority.isSome = true
  isRooted : IsRooted u.path
  isSettled : IsSettled u

/- A settled URL of the web is such a page. -/
theorem isWeb_of_isSound
    {asked : Bool}
    (hSettled : IsSettled u)
    (hSound : IsSound asked u)
    (hKind : u.kind = .web) :
    IsWeb u := by
  refine ⟨hKind, hSound.front.hasServer ?_, hSound.front.isRooted ?_, hSettled⟩
  · rw [← kind, hKind]
    decide
  · rw [← kind, hKind]
    decide

/- Another fragment is encoded. -/
theorem IsSettled.withFragment
    (hSettled : IsSettled u)
    (rest : List Char) :
    IsSettled (withFragment u rest) := by
  refine ⟨hSettled.server, hSettled.path, ?_, hSettled.query, ?_⟩
  · exact fun hFlat => ⟨(hSettled.flat hFlat).noFragment, nofun⟩
  · rintro f ⟨⟩
    exact not_inFragment_of_mem_encode rest

/- Away from files, the path of a page of the web is level. -/
theorem IsWeb.ne_file
    {base : Url}
    (hBase : IsWeb base) :
    base.kind ≠ .file := by
  rw [hBase.isWeb]
  decide

/- A path in the place of the last segment of a page of the web. -/
theorem IsWeb.isSettledPath_dropLast
    {base : Url}
    (hBase : IsWeb base)
    (input : List Char) :
    IsSettledPath base.kind
      (readPath base.kind true (dropLast base.kind base.path)
        input).1.path := by
  have hOld :=
    hBase.isSettled.path (isFlat_of_isSome hBase.isServed)
  have hDrop : dropLast base.kind base.path = upToSlash base.path := by
    rw [dropLast, hBase.isWeb]
    rfl
  have hPrefix := upToSlash_isPrefix base.path
  rw [hDrop]
  -- the start of a level path, up to a slash, is level
  exact isSettledPath_readPath true input
    (fun c hc => hOld.written c (hPrefix.subset hc))
    (.inl (IsLevel.of_prefix (hOld.steady.isLevel hBase.ne_file)
      (isOpen_upToSlash _) hPrefix))
    (isOpen_upToSlash _)

/- A text in the place of a page of the web. -/
theorem isSettled_readRelative
    {base : Url}
    (hBase : IsWeb base)
    (hRead : readRelative base cs = .ok u) :
    IsSettled u := by
  rcases Option.isSome_iff_exists.mp hBase.isServed with ⟨a, hServer⟩
  have hFlat := isFlat_of_isSome hBase.isServed
  have hFiles : Kind.ofScheme base.scheme ≠ .file := hBase.ne_file
  have hOld := hBase.isSettled.path hFlat
  have hFinish :
      ∀ {path rest : List Char}, IsSettledPath base.kind path →
        IsSettled (finish base.scheme base.authority path rest) := by
    intro path rest hPath
    rw [hServer]
    exact isSettled_served (hBase.isSettled.server a hServer) hPath
  cases relativeRead_of_readRelative hRead with
  | same =>
      refine ⟨hBase.isSettled.server, fun _ => hOld, ?_,
        hBase.isSettled.query, nofun⟩
      intro hOther
      have hSame : base.isFlat = true := hOther
      rw [hFlat] at hSame
      cases hSame
  | fragment _ => exact hBase.isSettled.withFragment _
  | query => exact hFinish hOld
  | server _ hRead => exact isSettled_readServer hFiles hRead
  | root _ => exact hFinish (isSettledPath_root _ true _)
  | last _ => exact hFinish (hBase.isSettledPath_dropLast _)

/- A cleaned text does not end in a low character. -/
theorem isLow_of_getLast?_clean (cs : List Char) :
    ∀ c ∈ (clean cs).getLast?, isLow c = false := by
  rw [clean]
  cases hDrop : (cs.dropWhile isLow).reverse.dropWhile isLow with
  | nil => rintro c ⟨⟩
  | cons d before =>
      have hLow : isLow d = false := by
        have hStop :=
          List.head?_dropWhile_not isLow (cs.dropWhile isLow).reverse
        rw [hDrop] at hStop
        exact hStop
      have hKept : isInner d = true := by
        by_contra hOuter
        have hOther := (isLow_of_not_isInner (eq_false_of_ne_true hOuter)).1
        rw [hLow] at hOther
        cases hOther
      intro c hc
      change c ∈ ((d :: before).reverse.filter isInner).getLast? at hc
      rw [List.reverse_cons, List.filter_append,
        List.filter_cons_of_pos hKept, List.filter_nil,
        List.getLast?_concat] at hc
      cases hc
      exact hLow

/- What stands behind a scheme, alone or behind a page of the web. -/
theorem isSettled_readScheme
    {base : Option Url}
    (hBase : ∀ b ∈ base, IsWeb b)
    (hEnd : ∀ c ∈ cs.getLast?, isLow c = false)
    (hRead : readScheme base scheme cs = .ok u) :
    IsSettled u := by
  cases schemeRead_of_readScheme hRead with
  | other hKind hRead => exact isSettled_readOther hKind hEnd hRead
  | file _ hRead =>
      have hNone : base.filter (·.scheme == "file") = none := by
        rw [Option.filter_eq_none_iff]
        intro b hb hFile
        have hWeb := (hBase b hb).isWeb
        rw [kind, beq_iff_eq.mp hFile] at hWeb
        cases hWeb
      rw [hNone] at hRead
      exact isSettled_readFile hRead
  | relative _ hMem _ hRead => exact isSettled_readRelative (hBase _ hMem) hRead
  | server hKind hRead =>
      refine isSettled_readServer ?_ hRead
      rw [hKind]
      decide

/- The parts of a URL that was read are settled. -/
theorem isSettled_read
    {base : Option Url}
    (hBase : ∀ b ∈ base, IsWeb b)
    (hRead : read base cs = .ok u) :
    IsSettled u := by
  cases textRead_of_read hRead with
  | scheme hTake hRead =>
      refine isSettled_readScheme hBase ?_ hRead
      rcases takeScheme?_suffix hTake with ⟨front, hText⟩
      intro c hc
      apply isLow_of_getLast?_clean cs
      rw [← hText, List.getLast?_append, hc]
      rfl
  | fragment hMem _ => exact (hBase _ hMem).isSettled.withFragment _
  | file hMem hFile _ => exact absurd hFile (hBase _ hMem).ne_file
  | relative hMem _ _ hRead => exact isSettled_readRelative (hBase _ hMem) hRead

theorem isSettled_of_parse
    {s : String}
    (hParse : parse s = .ok u) :
    IsSettled u := by
  refine isSettled_read ?_ hParse
  rintro b ⟨⟩

end Url

end Gleaner
