import Gleaner.Proofs.Url.Written

/-
  The text of a URL that was read is read back as the URL, unless
  it is one of files.

  Main declarations:
    * `Url.IsSettled.readEnd_ending`
    * `Url.readPathStart_of_isLevel`
    * `Url.IsSettled.readServer_behind`
    * `Url.IsSettled.parse_text`
    * `Url.parse_text`
-/

namespace Gleaner

namespace Url

variable {kind : Kind}
variable {hosted asked : Bool}
variable {scheme : String}
variable {more rest : List Char}
variable {u : Url}

------------------------------------------------------------
-- Ends
------------------------------------------------------------

/- The query and the fragment are read as they stand. -/
theorem IsSettled.readEnd_ending
    (hSettled : IsSettled u) :
    readEnd u.kind u.ending = (u.query, u.fragment) := by
  have hFragment :
      ∀ f ∈ u.fragment, encode inFragment f = f := fun f hf =>
    encode_of_not_mem (hSettled.fragment f hf)
  rw [ending]
  cases hQuery : u.query with
  | none =>
      cases h : u.fragment with
      | none => rfl
      | some f =>
          show (none, some (encode inFragment f)) = (none, some f)
          rw [hFragment f h]
  | some q =>
      have hOut := hSettled.query q hQuery
      have hInside : ∀ c ∈ q, (c != '#') = true := by
        intro c hc
        rw [bne_iff_ne]
        rintro rfl
        have hMark := hOut '#' hc
        rw [inQuery, Bool.or_eq_false_iff, Bool.or_eq_false_iff] at hMark
        exact absurd hMark.1.2 (by decide)
      have hStop :
          ∀ c ∈ (u.fragment.elim [] ('#' :: ·) : List Char).head?,
            (c != '#') = false := by
        intro c hc
        cases h : u.fragment with
        | none =>
            rw [h] at hc
            cases hc
        | some f =>
            rw [h] at hc
            cases hc
            rfl
      rw [Option.elim_some, List.cons_append, readEnd]
      rw [Text.takeWhile_append_of_stop hInside hStop,
        Text.dropWhile_append_of_stop hInside hStop, encode_of_not_mem hOut]
      cases h : u.fragment with
      | none => rfl
      | some f =>
          show (some q, some (encode inFragment f)) = (some q, some f)
          rw [hFragment f h]

/- The end of a URL is put behind another path. -/
theorem IsSettled.finish_ending
    (hSettled : IsSettled u)
    (authority : Option Authority)
    (path : List Char) :
    finish u.scheme authority path u.ending =
      { u with authority := authority, path := path } := by
  have hEnd := hSettled.readEnd_ending
  rw [kind] at hEnd
  rw [finish, hEnd]

------------------------------------------------------------
-- Paths
------------------------------------------------------------

/- A path from the root is read as it stands. -/
theorem readPath_of_isLevel
    (hLevel : IsLevel kind hosted more)
    (hWritten : ∀ c ∈ more, IsWritten kind c)
    (hFile : kind = .file →
      isPlainDrive (more.take 2) = false ∧ Text.startsWith ['/'] more = false)
    (hEnd : ∀ c ∈ rest.head?, c = '?' ∨ c = '#') :
    readPath kind hosted ['/'] (more ++ rest) =
      (⟨'/' :: more, hosted⟩, rest) := by
  rw [readPath, readSegments_of_isLevel (r := ⟨['/'], hosted⟩) rfl hLevel
    hWritten (fun hKind _ => (hFile hKind).1) hEnd]
  dsimp only
  split
  · rename_i hKind
    have hSlash := (hFile (beq_iff_eq.mp hKind)).2
    cases more with
    | nil => rfl
    | cons c more =>
        have hOther : (c == '/') = false := by
          apply eq_false_of_ne_true
          intro hSame
          rw [beq_iff_eq.mp hSame] at hSlash
          cases hSlash
        simp [hOther]
  · rfl

/- The path behind an authority is read as it stands. -/
theorem readPathStart_of_isLevel
    {path : List Char}
    (hLevel : IsLevel kind hosted path)
    (hWritten : ∀ c ∈ path, IsWritten kind c)
    (hRooted : IsRooted path ∨ (kind.isSpecial = false ∧ path = []))
    (hFile : kind = .file →
      isPlainDrive ((path.drop 1).take 2) = false ∧
        Text.startsWith ['/', '/'] path = false)
    (hEnd : ∀ c ∈ rest.head?, c = '?' ∨ c = '#') :
    readPathStart kind hosted (path ++ rest) = (⟨path, hosted⟩, rest) := by
  cases path with
  | nil =>
      have hOther : kind.isSpecial = false := by
        rcases hRooted with hSlash | hOther
        · cases hSlash
        · exact hOther.1
      cases rest with
      | nil => rw [List.nil_append, readPathStart, hOther]; rfl
      | cons c rest =>
          have hc : isSlash kind c = false ∧ (c == '?' || c == '#') = true := by
            rcases hEnd c rfl with rfl | rfl
            · cases kind <;> decide
            · cases kind <;> decide
          rw [List.nil_append, readPathStart, hc.1,
            if_neg Bool.false_ne_true, hOther, hc.2]
          rfl
  | cons c more =>
      have hSlash : c = '/' := by
        rcases hRooted with hHead | hNone
        · exact Option.some.inj hHead
        · cases hNone.2
      rw [hSlash] at hLevel hFile ⊢
      rw [List.cons_append, readPathStart, if_pos (show
        isSlash kind '/' = true by cases kind <;> rfl)]
      apply readPath_of_isLevel
      · exact isLevel_cons_slash.mp hLevel
      · exact fun d hd => hWritten d (List.mem_cons_of_mem c hd)
      · exact hFile
      · exact hEnd

------------------------------------------------------------
-- Servers
------------------------------------------------------------

/- What stands behind the two slashes of a URL is read as it is. -/
theorem IsSettled.readServer_behind
    {a : Authority}
    (hSettled : IsSettled u)
    (hSound : IsSound asked u)
    (hServer : u.authority = some a)
    (hKind : u.kind ≠ .file) :
    readServer u.scheme (a.server ++ (u.path ++ u.ending)) = .ok u := by
  have hAuthority := hSettled.server a hServer
  have hSome := Option.isSome_of_eq_some hServer
  have hPath := hSettled.path (isFlat_of_isSome hSome)
  have hServed := hSound.front.served hSome
  have hHost : a.host.isSome = true ∨ Kind.ofScheme u.scheme = .other := by
    cases hWeb : Kind.ofScheme u.scheme with
    | file => exact absurd hWeb hKind
    | web => exact .inl (hSound.front.isSome_host hServer hWeb)
    | other => exact .inr rfl
  have hPort : a.port.filter (usualPort? u.scheme != some ·) = a.port := by
    cases h : a.port with
    | none => rfl
    | some p =>
        have hUnusual := hAuthority.port p h
        simp [Option.filter_some, hUnusual]
  have hStart :
      readPathStart (.ofScheme u.scheme) true (u.path ++ u.ending) =
        (⟨u.path, true⟩, u.ending) := by
    apply readPathStart_of_isLevel
    · exact hPath.steady.isLevel hKind
    · exact hPath.written
    · by_cases hRooted : IsRooted u.path
      · exact .inl hRooted
      · right
        refine ⟨?_, hServed.resolve_right hRooted⟩
        apply eq_false_of_ne_true
        intro hSpecial
        exact hRooted (hSound.front.isRooted (bne_iff_ne.mp hSpecial))
    · exact fun hFile => absurd hFile hKind
    · exact u.head?_ending
  rw [readServer, (hSound.front.isSound a hServer).takeAuthority_server hHost
    (endsServer_path _ hServed u.head?_ending), hAuthority.user, hPort]
  show (Except.ok (finish u.scheme (some a)
    (readPathStart (.ofScheme u.scheme) true (u.path ++ u.ending)).1.path
    (readPathStart (.ofScheme u.scheme) true (u.path ++ u.ending)).2) :
      Except Error Url) = .ok u
  rw [hStart, hSettled.finish_ending, ← hServer]

------------------------------------------------------------
-- Without a Server
------------------------------------------------------------

/- One slash and a path, behind a scheme that is not special. -/
theorem readOther_slash
    (hSlash : ∀ c ∈ rest.head?, c ≠ '/') :
    readOther scheme ('/' :: rest) =
      .ok (finish scheme none (readPath .other true ['/'] rest).1.path
        (readPath .other true ['/'] rest).2) := by
  rw [readOther.eq_def]
  split
  · rename_i hTwo
    cases hTwo
    exact absurd rfl (hSlash '/' rfl)
  · rename_i hOne
    cases hOne
    rfl
  · rename_i hNone
    exact absurd rfl (hNone rest)

/- The dot in front of two slashes is passed over. -/
theorem readPath_dot (rest : List Char) :
    readPath .other true ['/'] ('.' :: '/' :: rest) =
      readPath .other true ['/'] rest := by
  have hDot : encodeChar inPath '.' = ['.'] := by decide
  rw [readPath, readSegments, hDot]
  rfl

/- A path that does not start with a slash puts none in front. -/
theorem ne_slash_of_head?
    {part : List Char}
    (hStart : Text.startsWith ['/'] part = false)
    (u : Url) :
    ∀ c ∈ (part ++ u.ending).head?, c ≠ '/' := by
  intro c hc
  cases part with
  | nil =>
      rcases u.head?_ending c hc with rfl | rfl
      · decide
      · decide
  | cons d part =>
      cases hc
      rintro rfl
      cases hStart

/- A path from the root is read as it is without an authority. -/
theorem IsSettled.readOther_rooted
    (hSettled : IsSettled u)
    (hNone : u.authority = none)
    (hRooted : IsRooted u.path)
    (hOther : u.kind = .other) :
    readOther u.scheme u.behind = .ok u := by
  rcases List.head?_eq_some_iff.mp hRooted with ⟨more, hMore⟩
  have hFlat : u.isFlat = false := by
    rw [isFlat, startsWith_slash_iff.mpr hRooted]
    simp
  have hPath := hSettled.path hFlat
  rw [hOther, hMore] at hPath
  have hRead :
      readPath .other true ['/'] (more ++ u.ending) =
        (⟨'/' :: more, true⟩, u.ending) := by
    apply readPath_of_isLevel
    · exact isLevel_cons_slash.mp (hPath.steady.isLevel (by decide))
    · exact fun c hc => hPath.written c (List.mem_cons_of_mem _ hc)
    · intro hFile
      cases hFile
    · exact u.head?_ending
  have hFinish : finish u.scheme none ('/' :: more) u.ending = u := by
    rw [hSettled.finish_ending, ← hMore, ← hNone]
  rw [behind, hNone, hMore]
  cases hTwo : Text.startsWith ['/', '/'] ('/' :: more) with
  | true =>
      have hDot : ∀ c ∈ ('.' :: '/' :: (more ++ u.ending)).head?, c ≠ '/' := by
        rintro c ⟨⟩
        decide
      show readOther u.scheme ('/' :: '.' :: '/' :: (more ++ u.ending)) = .ok u
      rw [readOther_slash hDot, readPath_dot, hRead, hFinish]
  | false =>
      have hNext : ∀ c ∈ (more ++ u.ending).head?, c ≠ '/' :=
        ne_slash_of_head? hTwo u
      show readOther u.scheme ('/' :: (more ++ u.ending)) = .ok u
      rw [readOther_slash hNext, hRead, hFinish]

/- What does not start with a slash has a flat path. -/
theorem readOther_of_head?
    {cs : List Char}
    (scheme : String)
    (hHead : ∀ c ∈ cs.head?, c ≠ '/') :
    readOther scheme cs =
      .ok (finish scheme none
        (encode isControl (cs.takeWhile fun c => !(c == '?' || c == '#')))
        (cs.dropWhile fun c => !(c == '?' || c == '#'))) := by
  rw [readOther.eq_def]
  split
  · exact absurd rfl (hHead '/' rfl)
  · exact absurd rfl (hHead '/' rfl)
  · rfl

/- A flat path is read as it is. -/
theorem IsSettled.readOther_flat
    (hSettled : IsSettled u)
    (hSound : IsSound asked u)
    (hFlat : u.isFlat = true) :
    readOther u.scheme u.behind = .ok u := by
  have hNoFragment := (hSettled.flat hFlat).noFragment
  rw [isFlat, Bool.and_eq_true, Option.isNone_iff_eq_none,
    Bool.not_eq_true'] at hFlat
  rcases hFlat with ⟨hNone, hSlash⟩
  have hHead := ne_slash_of_head? hSlash u
  have hTwo : Text.startsWith ['/', '/'] u.path = false := by
    apply eq_false_of_ne_true
    intro hStart
    rcases Option.isSome_iff_exists.mp hStart with ⟨rest, hRest⟩
    rw [Text.eq_append_of_dropPrefix? hRest] at hSlash
    cases hSlash
  have hInside : ∀ c ∈ u.path, (!(c == '?' || c == '#')) = true := by
    intro c hc
    have hChar := hSound.front.isPath c hc
    rw [isPathChar, Bool.and_eq_true, bne_iff_ne] at hChar
    have hHash : c ≠ '#' := by
      rintro rfl
      exact hNoFragment hc
    simp [hChar.2, hHash]
  have hStop : ∀ c ∈ u.ending.head?, (!(c == '?' || c == '#')) = false := by
    intro c hc
    rcases u.head?_ending c hc with rfl | rfl
    · rfl
    · rfl
  have hEncoded : encode isControl u.path = u.path := by
    apply encode_of_not_mem
    intro c hc
    have hChar := hSound.front.isPath c hc
    rw [isPathChar, Bool.and_eq_true, Bool.not_eq_true'] at hChar
    exact hChar.1
  rw [behind, hNone, hTwo]
  show readOther u.scheme (u.path ++ u.ending) = .ok u
  rw [readOther_of_head? _ hHead, Text.takeWhile_append_of_stop hInside hStop,
    Text.dropWhile_append_of_stop hInside hStop, hEncoded,
    hSettled.finish_ending, ← hNone]

------------------------------------------------------------
-- URLs
------------------------------------------------------------

/- The text of a URL is read as the URL, away from files. -/
theorem IsSettled.parse_text
    (hSettled : IsSettled u)
    (hSound : IsSound asked u)
    (hKind : u.kind ≠ .file) :
    parse u.text = .ok u := by
  rw [hSettled.parse_eq_readScheme hSound, readScheme]
  split
  · rename_i hOther
    cases h : u.authority with
    | some a =>
        rw [behind_of_authority h]
        exact hSettled.readServer_behind hSound h hKind
    | none =>
        by_cases hRooted : IsRooted u.path
        · exact hSettled.readOther_rooted h hRooted hOther
        · apply hSettled.readOther_flat hSound
          rw [isFlat, h, Option.isNone_none, Bool.true_and,
            Bool.not_eq_true', ← Bool.not_eq_true, startsWith_slash_iff]
          exact hRooted
  · rename_i hFile
    exact absurd hFile hKind
  · rename_i hWeb
    rcases hSound.front.hasHost hWeb with ⟨a, h, hHost⟩
    have hDrop :
        u.behind.dropWhile isAnySlash =
          a.server ++ (u.path ++ u.ending) := by
      rw [behind_of_authority h]
      have hSlashes : ∀ c ∈ ['/', '/'], isAnySlash c = true :=
        List.all_eq_true.mp rfl
      exact Text.dropWhile_append_of_stop hSlashes fun c =>
        (hSound.front.isSound a h).isAnySlash_of_head?_server hHost
    show readServer u.scheme (u.behind.dropWhile isAnySlash) = .ok u
    rw [hDrop]
    exact hSettled.readServer_behind hSound h hKind

/- Reading and writing a URL gives back a URL that was read. -/
theorem parse_text
    {s : String}
    (hParse : parse s = .ok u)
    (hKind : u.kind ≠ .file) :
    parse u.text = .ok u := by
  have hSound : IsSound true u := isSound_of_parse nofun hParse
  exact (isSettled_of_parse hParse).parse_text hSound hKind

end Url

end Gleaner
