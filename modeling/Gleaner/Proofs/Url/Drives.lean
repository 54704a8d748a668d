import Gleaner.Proofs.Url.Fixed

/-
  Reading the text of a URL of files again: it gives the same text
  exactly if no segment of the path moves, no bar stands for the
  colon of a drive, and no drive stands behind a host.

  Main declarations:
    * `Url.IsStill`
    * `Url.IsSettled.text_parse_text_iff`
-/

namespace Gleaner

namespace Url

variable {r : PathReading}
variable {path front more rest segment : List Char}
variable {segments : List (List Char)}

------------------------------------------------------------
-- Segments of Drives
------------------------------------------------------------

/- A segment that starts with a dot is no drive. -/
theorem isDrive_of_dropDot?
    (hDot : (dropDot? segment).isSome = true) :
    isDrive segment = false := by
  rw [dropDot?.eq_def] at hDot
  rw [isDrive.eq_def]
  split
  · split at hDot
    · rename_i hText
      cases hText
      rfl
    · rename_i hText
      cases hText
    · cases hDot
  · rfl

/- The host is kept by a segment only if the segment is no drive. -/
theorem keepsHost_addSegment
    (slash : Bool)
    (hKept : (r.addSegment .file segment slash).keepsHost = true) :
    r.keepsHost = true ∧ isDrive segment = false := by
  rw [PathReading.addSegment] at hKept
  split at hKept
  · rename_i hDouble
    refine ⟨hKept, isDrive_of_dropDot? ?_⟩
    rw [isDoubleDot, Option.any_eq_true] at hDouble
    rcases hDouble with ⟨tail, hTail, _⟩
    rw [hTail]
    rfl
  · split at hKept
    · rename_i hDot
      refine ⟨hKept, isDrive_of_dropDot? ?_⟩
      rw [beq_iff_eq.mp hDot]
      rfl
    · split at hKept
      · cases hKept
      · rename_i hDrive
        rw [Bool.and_eq_true, not_and, Bool.not_eq_true] at hDrive
        exact ⟨hKept, hDrive rfl⟩

theorem keepsHost_add
    (slash : Bool)
    (hKept : (r.add .file segment slash).keepsHost = true) :
    r.keepsHost = true ∧ isDrive segment = false := by
  rw [PathReading.add, if_neg (by decide)] at hKept
  split at hKept
  · exact keepsHost_addSegment (r := { r with path := r.path ++ ['/'] })
      slash hKept
  · split at hKept
    · rename_i hLong
      rw [Bool.and_eq_true, decide_eq_true_eq] at hLong
      refine ⟨hKept, ?_⟩
      rw [isDrive.eq_def]
      split
      · exact absurd hLong.2 (Nat.lt_irrefl 2)
      · rfl
    · exact keepsHost_addSegment slash hKept

/- The host is kept by a path only if no segment is a drive. -/
theorem keepsHost_addAll
    (hKept : (r.addAll .file segments).keepsHost = true) :
    ∀ segment ∈ segments, isDrive segment = false := by
  have hAll : r.keepsHost = true ∧
      ∀ segment ∈ segments, isDrive segment = false := by
    induction segments generalizing r with
    | nil => exact ⟨hKept, List.forall_mem_nil _⟩
    | cons segment segments ih =>
        cases segments with
        | nil =>
            have hLast := keepsHost_add false hKept
            exact ⟨hLast.1, List.forall_mem_singleton.mpr hLast.2⟩
        | cons next segments =>
            rcases ih hKept with ⟨hFirst, hLater⟩
            have hSegment := keepsHost_add true hFirst
            exact ⟨hSegment.1,
              List.forall_mem_cons.mpr ⟨hSegment.2, hLater⟩⟩
  exact hAll.2

/- Behind a drive, no other drive gets a slash. -/
theorem add_behind_drive
    (segment : List Char)
    (slash : Bool)
    (hDrive : isDrive (lastSegment front) = true)
    (hPath : r.path = front ++ '/' :: rest)
    (hOpen : IsOpen r.path) :
    r.add .file segment slash = r.addSegment .file segment slash := by
  rcases add_cases slash hOpen with hAdd | ⟨_, hRoot, _⟩
  · exact hAdd
  · cases front with
    | nil => cases hDrive
    | cons c front =>
        rw [hPath, List.cons_append, List.cons.injEq] at hRoot
        simp at hRoot

/- Segments behind a drive stay behind it, and leave a path level. -/
theorem addAll_behind_drive
    (hDrive : isDrive (lastSegment front) = true)
    (hPath : r.path = front ++ '/' :: rest)
    (hOpen : IsOpen r.path)
    (hApart : ∀ segment ∈ segments, '/' ∉ segment) :
    (∃ more, (r.addAll .file segments).path = front ++ '/' :: more) ∧
      (IsLevel .file false r.path →
        IsLevel .file false (r.addAll .file segments).path) := by
  induction segments generalizing r rest with
  | nil => exact ⟨⟨rest, hPath⟩, id⟩
  | cons segment segments ih =>
      have hFirst := hApart segment List.mem_cons_self
      have hAdd := fun slash =>
        add_behind_drive segment slash hDrive hPath hOpen
      cases segments with
      | nil =>
          rw [PathReading.addAll, hAdd]
          exact ⟨exists_addSegment_append .file segment false hDrive hPath,
            fun hLevel => isLevel_addSegment false hOpen hLevel hFirst⟩
      | cons next segments =>
          rcases exists_addSegment_append .file segment true hDrive hPath with
            ⟨later, hLater⟩
          rw [PathReading.addAll, hAdd]
          rcases ih hLater (isOpen_addSegment .file r segment)
              (fun s hs => hApart s (List.mem_cons_of_mem _ hs)) with
            ⟨hMore, hKept⟩
          exact ⟨hMore, fun hLevel =>
            hKept (isLevel_addSegment true hOpen hLevel hFirst)⟩

------------------------------------------------------------
-- Paths without a Host
------------------------------------------------------------

/- There is no slash in a segment. -/
theorem slash_not_mem_of_mem_cutAt
    (hSegment : segment ∈ Text.cutAt (· == '/') path) :
    '/' ∉ segment := by
  intro hSlash
  have hNone := Text.not_isCut_of_mem_cutAt hSegment hSlash
  cases hNone

variable {hosted : Bool}
variable {ending : List Char}

/- A path of files has one slash in front. -/
def PathReading.oneSlash (r : PathReading) : PathReading :=
  { r with path := '/' :: r.path.dropWhile (· == '/') }

/- A path of files that was read is read segment by segment. -/
theorem readPath_file
    (hWritten : ∀ c ∈ more, IsWritten .file c)
    (hEnd : ∀ c ∈ ending.head?, c = '?' ∨ c = '#') :
    readPath .file hosted path (more ++ ending) =
      ((PathReading.addAll .file ⟨path, hosted⟩
        (Text.cutAt (· == '/') more)).oneSlash, ending) := by
  have hRead :
      readSegments .file ⟨path, hosted⟩ [] (more ++ ending) =
        (PathReading.addAll .file ⟨path, hosted⟩
          (Text.cutAt (· == '/') more), ending) :=
    readSegments_eq_addAll hWritten List.not_mem_nil hEnd
  rw [readPath, hRead]
  rfl

/- A slash behind the root is a segment of its own. -/
theorem readPath_slash (hosted : Bool) (input : List Char) :
    readPath .file hosted ['/'] ('/' :: input) =
      readPath .file hosted ['/', '/'] input := rfl

/- Behind two slashes, a level path is read as it stands. -/
theorem readPath_again
    (hLevel : IsLevel .file false path)
    (hWritten : ∀ c ∈ path, IsWritten .file c)
    (hRooted : IsRooted path)
    (hSingle : Text.startsWith ['/', '/'] path = false)
    (hEnd : ∀ c ∈ ending.head?, c = '?' ∨ c = '#') :
    readPath .file false ['/'] (path ++ ending) = (⟨path, false⟩, ending) := by
  rcases List.head?_eq_some_iff.mp hRooted with ⟨more, rfl⟩
  have hStay : IsLevel .file false more := isLevel_cons_slash.mp hLevel
  have hSlashes : ('/' :: more).dropWhile (· == '/') = more := by
    cases more with
    | nil => rfl
    | cons c more =>
        have hOther : (c == '/') = false := by
          apply eq_false_of_ne_true
          intro hSame
          rw [beq_iff_eq.mp hSame] at hSingle
          cases hSingle
        simp [hOther]
  have hAdd :
      PathReading.addAll .file ⟨['/', '/'], false⟩
          (Text.cutAt (· == '/') more) =
        ⟨['/', '/'] ++ Text.joinWith ['/'] (Text.cutAt (· == '/') more),
          false⟩ :=
    addAll_of_not_isStep rfl hStay fun _ hRoot => absurd hRoot (by decide)
  rw [List.cons_append, readPath_slash,
    readPath_file (fun c hc => hWritten c (List.mem_cons_of_mem _ hc)) hEnd,
    hAdd, Text.joinWith_cutAt]
  show ((⟨'/' :: ('/' :: more).dropWhile (· == '/'), false⟩ : PathReading),
    ending) = _
  rw [hSlashes]

/- Behind two slashes, a path on a drive becomes level. -/
theorem isLevel_readPath_of_isOnDrive
    (hDrive : IsOnDrive path)
    (hWritten : ∀ c ∈ path, IsWritten .file c)
    (hEnd : ∀ c ∈ ending.head?, c = '?' ∨ c = '#') :
    IsLevel .file false
      (readPath .file false ['/'] (path ++ ending)).1.path := by
  rcases hDrive with ⟨drive, rest, hDrive, rfl⟩
  have hApart := slash_not_mem_of_isPlainDrive hDrive
  have hStay : isStep .file false drive = false :=
    isStep_of_isPlainDrive hDrive
  have hCut :
      Text.cutAt (· == '/') (drive ++ '/' :: rest) =
        drive :: Text.cutAt (· == '/') rest :=
    Text.cutAt_append_cons (ne_slash_of_not_mem hApart) (by decide) rest
  have hStart :
      PathReading.add .file ⟨['/', '/'], false⟩ drive true =
        ⟨['/', '/'] ++ drive ++ ['/'], false⟩ :=
    add_of_not_isStep true (.inr rfl)
      (fun _ hRoot => absurd hRoot (by decide)) hStay
  have hLevel : IsLevel .file false (['/', '/'] ++ drive ++ ['/']) := by
    have hSlashes : IsLevel .file false ['/', '/'] :=
      isLevel_cons_slash.mpr (isLevel_cons_slash.mpr isLevel_nil)
    exact isLevel_concat.mpr (hSlashes.append (.inr rfl)
      ((isLevel_segment hApart).mpr hStay))
  have hPieces : ∀ segment ∈ Text.cutAt (· == '/') rest, '/' ∉ segment :=
    fun _ => slash_not_mem_of_mem_cutAt
  have hBehind :=
    addAll_behind_drive (r := ⟨['/', '/'] ++ drive ++ ['/'], false⟩)
      (isDrive_lastSegment (.inr rfl) hDrive) rfl (isOpen_concat _) hPieces
  have hRest : ∀ c ∈ drive ++ '/' :: rest, IsWritten .file c :=
    fun c hc => hWritten c (List.mem_cons_of_mem _ hc)
  rw [List.cons_append, List.cons_append, readPath_slash,
    readPath_file hRest hEnd, hCut,
    addAll_cons _ _ _ (Text.cutAt_ne_nil _ _), hStart]
  exact (hBehind.2 hLevel).oneSlash

/- Behind two slashes, exactly the level paths stay as they are. -/
theorem readPath_again_iff
    (hPath : IsSettledPath .file path)
    (hRooted : IsRooted path)
    (hEnd : ∀ c ∈ ending.head?, c = '?' ∨ c = '#') :
    (readPath .file false ['/'] (path ++ ending)).1.path = path ↔
      IsLevel .file false path := by
  constructor
  · intro hSame
    rcases hPath.steady with hLevel | ⟨_, hDrive⟩
    · exact hLevel
    · have hAgain := isLevel_readPath_of_isOnDrive hDrive hPath.written hEnd
      rwa [hSame] at hAgain
  · intro hLevel
    rw [readPath_again hLevel hPath.written hRooted (hPath.single rfl) hEnd]

------------------------------------------------------------
-- Paths behind a Host
------------------------------------------------------------

/- A segment at the root that starts like a drive becomes one. -/
theorem isOnDrive_addAll
    (hosted : Bool)
    (hDrive : isPlainDrive (segment.take 2) = true)
    (hLong : 2 < segment.length)
    (hApart : ∀ s ∈ segments, '/' ∉ s) :
    IsOnDrive
      (PathReading.addAll .file ⟨['/'], hosted⟩ (segment :: segments)).path := by
  have hAdd : ∀ slash,
      PathReading.add .file ⟨['/'], hosted⟩ segment slash =
        ⟨'/' :: segment.take 2 ++ '/' :: (segment.drop 2 ++ slashIf slash),
          hosted⟩ := by
    intro slash
    have hNone : isPlainDrive [] = false := rfl
    simp [PathReading.add, hNone, hDrive, hLong]
  cases segments with
  | nil =>
      rw [PathReading.addAll, hAdd]
      exact ⟨segment.take 2, _, hDrive, rfl⟩
  | cons next segments =>
      have hOpen : IsOpen
          ('/' :: segment.take 2 ++ '/' :: (segment.drop 2 ++ ['/'])) := by
        rw [← List.cons_append, ← List.append_assoc]
        exact isOpen_concat _
      have hFront : isDrive (lastSegment ('/' :: segment.take 2)) = true :=
        isDrive_lastSegment (isOpen_concat []) hDrive
      have hBehind :=
        addAll_behind_drive
          (r := ⟨'/' :: segment.take 2 ++ '/' :: (segment.drop 2 ++ ['/']),
            hosted⟩)
          hFront rfl hOpen hApart
      rcases hBehind.1 with ⟨more, hMore⟩
      rw [PathReading.addAll, hAdd]
      exact ⟨segment.take 2, more, hDrive, hMore⟩

/- A drive at the start is a segment. -/
theorem exists_drive_of_isOnDrive
    (hDrive : IsOnDrive ('/' :: more)) :
    ∃ segment ∈ Text.cutAt (· == '/') more, isDrive segment = true := by
  rcases hDrive with ⟨drive, rest, hDrive, hPath⟩
  rw [List.cons_append, List.cons.injEq] at hPath
  have hApart := slash_not_mem_of_isPlainDrive hDrive
  rw [isPlainDrive, Bool.and_eq_true] at hDrive
  refine ⟨drive, ?_, hDrive.1⟩
  rw [hPath.2,
    Text.cutAt_append_cons (ne_slash_of_not_mem hApart) (by decide)]
  exact List.mem_cons_self

/- A path that starts like a drive has a segment that does. -/
theorem exists_cutAt_of_isPlainDrive
    (hDrive : isPlainDrive (more.take 2) = true) :
    ∃ segment segments,
      Text.cutAt (· == '/') more = segment :: segments ∧
        isPlainDrive (segment.take 2) = true := by
  rcases isPlainDrive_iff.mp hDrive with ⟨a, hLetter, hTake⟩
  have hText : more = a :: ':' :: more.drop 2 := by
    rw [← List.take_append_drop 2 more, hTake]
    rfl
  have hOther : (a == '/') = false := by
    rw [beq_eq_false_iff_ne]
    rintro rfl
    cases hLetter
  have hCons : ∀ {c : Char}, (c == '/') = false → ∀ cs, ∃ piece pieces,
      Text.cutAt (· == '/') cs = piece :: pieces ∧
        Text.cutAt (· == '/') (c :: cs) = (c :: piece) :: pieces :=
    fun hNext => Text.cutAt_cons_of_not_isCut hNext
  have hMark : (':' == '/') = false := by decide
  rcases hCons hMark (more.drop 2) with ⟨piece, segments, _, hColon⟩
  rcases hCons hOther (':' :: more.drop 2) with ⟨first, rest, hFirst, hAll⟩
  rw [hColon, List.cons.injEq] at hFirst
  refine ⟨a :: ':' :: piece, segments, ?_, ?_⟩
  · rw [hText, hFirst.1, hFirst.2]
    exact hAll
  · exact isPlainDrive_iff.mpr ⟨a, hLetter, rfl⟩

/- A path behind a host is read segment by segment. -/
theorem readPathStart_file
    (hWritten : ∀ c ∈ more, IsWritten .file c)
    (hEnd : ∀ c ∈ ending.head?, c = '?' ∨ c = '#') :
    readPathStart .file hosted ('/' :: more ++ ending) =
      ((PathReading.addAll .file ⟨['/'], hosted⟩
        (Text.cutAt (· == '/') more)).oneSlash, ending) := by
  rw [List.cons_append, readPathStart, if_pos (by decide),
    readPath_file hWritten hEnd]

/-
  Behind a host, a path is read as it stands only if no drive is
  in it, and it starts like none.
-/
theorem isLevel_of_readPathStart
    (hSteady : IsSteady .file path)
    (hWritten : ∀ c ∈ path, IsWritten .file c)
    (hRooted : IsRooted path)
    (hEnd : ∀ c ∈ ending.head?, c = '?' ∨ c = '#')
    (hSame :
      (readPathStart .file true (path ++ ending)).1 = ⟨path, true⟩) :
    IsLevel .file true path ∧ isPlainDrive ((path.drop 1).take 2) = false := by
  rcases List.head?_eq_some_iff.mp hRooted with ⟨more, rfl⟩
  rw [readPathStart_file
    (fun c hc => hWritten c (List.mem_cons_of_mem _ hc)) hEnd] at hSame
  have hNoDrive : ∀ segment ∈ Text.cutAt (· == '/') more,
      isDrive segment = false := by
    apply keepsHost_addAll (r := ⟨['/'], true⟩)
    exact congrArg PathReading.keepsHost hSame
  have hNever : ¬IsOnDrive ('/' :: more) := by
    intro hDrive
    rcases exists_drive_of_isOnDrive hDrive with ⟨segment, hMem, hDrive⟩
    rw [hNoDrive segment hMem] at hDrive
    cases hDrive
  constructor
  · rcases hSteady with hLevel | ⟨_, hDrive⟩
    · rw [isLevel_cons_slash] at hLevel ⊢
      intro segment hSegment
      have hStay := hLevel segment hSegment
      rw [isStep, hNoDrive segment hSegment] at hStay ⊢
      exact hStay
    · exact absurd hDrive hNever
  · apply eq_false_of_ne_true
    intro hDrive
    rw [List.drop_one, List.tail_cons] at hDrive
    rcases exists_cutAt_of_isPlainDrive hDrive with
      ⟨segment, segments, hCut, hStart⟩
    rw [hCut] at hSame hNoDrive
    have hLong : 2 < segment.length := by
      by_contra hShort
      rw [List.take_of_length_le (Nat.not_lt.mp hShort), isPlainDrive,
        hNoDrive segment List.mem_cons_self] at hStart
      cases hStart
    have hApart : ∀ s ∈ segments, '/' ∉ s := fun s hs =>
      slash_not_mem_of_mem_cutAt (hCut ▸ List.mem_cons_of_mem _ hs)
    have hRead := isOnDrive_addAll true hStart hLong hApart
    have hPath :
        '/' :: (PathReading.addAll .file ⟨['/'], true⟩
          (segment :: segments)).path.dropWhile (· == '/') = '/' :: more :=
      congrArg PathReading.path hSame
    rw [hRead.oneSlash] at hPath
    exact hNever (hPath ▸ hRead)

/-
  Behind a host, the paths that stay as they are with their host
  are those without a drive and without a step.
-/
theorem readPathStart_again_iff
    {host : Host}
    (hHost : IsHost .file host)
    (hPath : IsSettledPath .file path)
    (hRooted : IsRooted path)
    (hEnd : ∀ c ∈ ending.head?, c = '?' ∨ c = '#') :
    (if (readPathStart .file true (path ++ ending)).1.keepsHost then
          some host
        else none).elim [] Host.write ++
          (readPathStart .file true (path ++ ending)).1.path =
        host.write ++ path ↔
      IsLevel .file true path ∧
        isPlainDrive ((path.drop 1).take 2) = false := by
  constructor
  · intro hSame
    apply isLevel_of_readPathStart hPath.steady hPath.written hRooted hEnd
    have hFront := isRooted_readPathStart .file true (path ++ ending)
    generalize (readPathStart .file true (path ++ ending)).1 = r
      at hSame hFront ⊢
    rcases r with ⟨read, kept⟩
    cases kept with
    | true =>
        rw [if_pos rfl, Option.elim_some, List.append_cancel_left_eq] at hSame
        exact congrArg (PathReading.mk · true) hSame
    | false =>
        -- a path starts with a slash, and a host does not
        rcases hFront with ⟨hOther, _⟩ | hSlash
        · cases hOther
        · rcases List.exists_cons_of_ne_nil hHost.write_ne_nil with
            ⟨c, name, hWrite⟩
          have hServer : isServerChar c = true := by
            apply hHost.isServerChar_of_mem_write
            rw [hWrite]
            exact List.mem_cons_self
          rw [if_neg Bool.false_ne_true, Option.elim_none, List.nil_append,
            hWrite] at hSame
          dsimp only at hSame hSlash
          rw [hSame, IsRooted, List.cons_append, List.head?_cons,
            Option.some.injEq] at hSlash
          rw [hSlash] at hServer
          cases hServer
  · rintro ⟨hLevel, hStart⟩
    rw [readPathStart_of_isLevel hLevel hPath.written (.inl hRooted)
      (fun _ => ⟨hStart, hPath.single rfl⟩) hEnd]
    rfl

------------------------------------------------------------
-- URLs of Files
------------------------------------------------------------

variable {asked : Bool}
variable {u : Url}

/-
  A URL of files that is read as it stands: no segment of its path
  is a step, and behind a host it does not start like a drive.
-/
def IsStill (u : Url) : Prop :=
  IsLevel .file u.host?.isSome u.path ∧
    (u.host?.isSome = true → isPlainDrive ((u.path.drop 1).take 2) = false)

/- Files are on a host or on none, without a user and a port. -/
theorem IsSound.authority_of_file
    (hSound : IsSound asked u)
    (hKind : u.kind = .file) :
    ∃ host, u.authority = fileAuthority host ∧
      u.host?.isSome = host.isSome ∧ ∀ h ∈ host, IsHost .file h := by
  have hSome : u.authority.isSome = true := by
    apply hSound.front.hasServer
    rw [← kind, hKind]
    decide
  rcases Option.isSome_iff_exists.mp hSome with ⟨a, hServer⟩
  have hFront := hSound.front.isSound a hServer
  rcases hFront.alone (.inr hKind) with ⟨hUser, hPort⟩
  refine ⟨a.host, ?_, ?_, ?_⟩
  · rw [hServer, fileAuthority, ← hUser, ← hPort]
  · simp [host?, hServer]
  · intro h hHost
    have hKnown := hFront.host h hHost
    rw [← kind, hKind] at hKnown
    exact hKnown

theorem behind_files
    {host : Option Host}
    (hServer : u.authority = fileAuthority host) :
    u.behind =
      '/' :: '/' :: (host.elim [] Host.write ++ (u.path ++ u.ending)) := by
  rw [behind_of_authority hServer]
  simp [Authority.server, Authority.seat]

/-
  Two URLs of files with the same end have the same text exactly
  if their hosts and paths have.
-/
theorem text_files_iff
    {host other : Option Host}
    (hServer : u.authority = fileAuthority host)
    (path : List Char) :
    text { u with authority := fileAuthority other, path := path } = u.text ↔
      other.elim [] Host.write ++ path =
        host.elim [] Host.write ++ u.path := by
  have hOther :=
    behind_files (u := { u with
      authority := fileAuthority other, path := path }) rfl
  rw [text, text, String.ofList_inj, write_eq_behind, write_eq_behind,
    hOther, behind_files hServer]
  show u.scheme.toList ++ ':' :: '/' :: '/' ::
      (other.elim [] Host.write ++ (path ++ u.ending)) = _ ↔ _
  rw [List.append_cancel_left_eq, List.cons.injEq, List.cons.injEq,
    List.cons.injEq, ← List.append_assoc, ← List.append_assoc,
    List.append_cancel_right_eq]
  simp

/- Files are read behind two slashes. -/
theorem IsSettled.parse_file
    {host : Option Host}
    (hSettled : IsSettled u)
    (hSound : IsSound asked u)
    (hScheme : u.scheme = "file")
    (hServer : u.authority = fileAuthority host) :
    parse u.text =
      readFileServer (host.elim [] Host.write ++ (u.path ++ u.ending)) := by
  rw [hSettled.parse_eq_readScheme hSound, hScheme, behind_files hServer]
  rfl

/- The text of a URL of files on no host, and of what is read there. -/
theorem IsSettled.text_parse_text_of_none
    (hSettled : IsSettled u)
    (hSound : IsSound asked u)
    (hKind : u.kind = .file)
    (hServer : u.authority = fileAuthority none)
    (hPath : IsSettledPath .file u.path)
    (hRooted : IsRooted u.path) :
    ∃ v, parse u.text = .ok v ∧
      (v.text = u.text ↔ IsLevel .file false u.path) := by
  have hScheme : u.scheme = "file" := eq_file_of_ofScheme hKind
  have hEnds : EndsServer .file (u.path ++ u.ending) :=
    endsServer_path .file (.inr hRooted) u.head?_ending
  have hRest :
      (readPath .file false ['/'] (u.path ++ u.ending)).2 = u.ending := by
    rw [readPath_file hPath.written u.head?_ending]
  have hFinish := hSettled.finish_ending
  rw [hScheme] at hFinish
  rw [hSettled.parse_file hSound hScheme hServer, Option.elim_none,
    List.nil_append, readFileServer_of_endsServer hEnds, hRest, hFinish]
  refine ⟨_, rfl, ?_⟩
  rw [← hScheme, text_files_iff hServer, Option.elim_none,
    List.nil_append, List.nil_append]
  exact readPath_again_iff hPath hRooted u.head?_ending

/- The text of a URL of files on a host, and of what is read there. -/
theorem IsSettled.text_parse_text_of_some
    {h : Host}
    (hSettled : IsSettled u)
    (hSound : IsSound asked u)
    (hKind : u.kind = .file)
    (hServer : u.authority = fileAuthority (some h))
    (hHost : IsHost .file h)
    (hPath : IsSettledPath .file u.path)
    (hRooted : IsRooted u.path) :
    ∃ v, parse u.text = .ok v ∧
      (v.text = u.text ↔
        IsLevel .file true u.path ∧
          isPlainDrive ((u.path.drop 1).take 2) = false) := by
  have hScheme : u.scheme = "file" := eq_file_of_ofScheme hKind
  have hEnds : EndsServer .file (u.path ++ u.ending) :=
    endsServer_path .file (.inr hRooted) u.head?_ending
  have hAway : h ≠ .name "localhost" := by
    intro hLocal
    have hElsewhere :=
      (hSettled.server ⟨"", some h, none⟩ hServer).away hKind
    exact hElsewhere (congrArg some hLocal)
  have hRest :
      (readPathStart .file true (u.path ++ u.ending)).2 = u.ending := by
    rcases List.head?_eq_some_iff.mp hRooted with ⟨more, hMore⟩
    have hWritten := hPath.written
    rw [hMore] at hWritten ⊢
    rw [readPathStart_file (fun c hc =>
      hWritten c (List.mem_cons_of_mem _ hc)) u.head?_ending]
  have hFinish := hSettled.finish_ending
  rw [hScheme] at hFinish
  rw [hSettled.parse_file hSound hScheme hServer, Option.elim_some,
    hHost.readFileServer_host hEnds, if_neg hAway, hRest, hFinish]
  refine ⟨_, rfl, ?_⟩
  rw [← hScheme, text_files_iff hServer, Option.elim_some]
  exact readPathStart_again_iff hHost hPath hRooted u.head?_ending

/-
  The text of a URL of files is read, and the text of what is read
  is the same exactly if the URL is still.
-/
theorem IsSettled.text_parse_text_iff
    (hSettled : IsSettled u)
    (hSound : IsSound asked u)
    (hKind : u.kind = .file) :
    ∃ v, parse u.text = .ok v ∧ (v.text = u.text ↔ u.IsStill) := by
  rcases hSound.authority_of_file hKind with ⟨host, hServer, hSome, hHost⟩
  have hFlat : u.isFlat = false := by
    apply isFlat_of_isSome
    rw [hServer]
    rfl
  have hPath := hSettled.path hFlat
  rw [hKind] at hPath
  have hRooted : IsRooted u.path := by
    apply hSound.front.isRooted
    rw [← kind, hKind]
    decide
  rw [IsStill, hSome]
  cases host with
  | none =>
      rcases hSettled.text_parse_text_of_none hSound hKind hServer hPath
        hRooted with ⟨v, hParse, hSame⟩
      refine ⟨v, hParse, hSame.trans ?_⟩
      exact (and_iff_left fun hHosted => absurd hHosted Bool.false_ne_true).symm
  | some h =>
      rcases hSettled.text_parse_text_of_some hSound hKind hServer
        (hHost h rfl) hPath hRooted with ⟨v, hParse, hSame⟩
      refine ⟨v, hParse, hSame.trans ?_⟩
      exact and_congr_right fun _ =>
        ⟨fun hStart _ => hStart, fun hStart => hStart rfl⟩

end Url

end Gleaner
