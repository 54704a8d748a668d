import Gleaner.Proofs.Text.Pieces
import Gleaner.Proofs.Url.Path

/-
  Level paths, whose segments stay where and as they are.  A level
  path is read as it stands, and what is read is level, unless it
  leads on behind the drive of a file.

  Main declarations:
    * `Url.IsLevel`
    * `Url.IsOnDrive`
    * `Url.IsSteady`
    * `Url.IsSteady.readPath`
    * `Url.PathReading.addAll`
    * `Url.readSegments_eq_addAll`
    * `Url.readSegments_of_isLevel`
-/

namespace Gleaner

namespace Url

variable {kind : Kind}
variable {hosted : Bool}
variable {path segment front more : List Char}

------------------------------------------------------------
-- Open Paths
------------------------------------------------------------

/- The path can be followed by a segment. -/
def IsOpen (path : List Char) : Prop :=
  path = [] ∨ path.getLast? = some '/'

theorem isOpen_concat (path : List Char) : IsOpen (path ++ ['/']) :=
  .inr List.getLast?_concat

/- Behind an open path, the last segment is what was put there. -/
theorem lastSegment_append
    (hOpen : IsOpen path)
    (hApart : '/' ∉ segment) :
    lastSegment (path ++ segment) = segment := by
  have hInside : ∀ c ∈ segment.reverse, (c != '/') = true := by
    intro c hc
    rw [bne_iff_ne]
    rintro rfl
    exact hApart (List.mem_reverse.mp hc)
  rw [lastSegment, List.reverse_append,
    Text.takeWhile_append_of_stop hInside, List.reverse_reverse]
  intro c hc
  rw [List.head?_reverse] at hc
  rcases hOpen with rfl | hSlash
  · cases hc
  · rw [hSlash] at hc
    cases hc
    decide

theorem isOpen_withSlash (path : List Char) : IsOpen (withSlash path) := by
  rw [withSlash]
  split
  · rename_i hSlash
    exact .inr (beq_iff_eq.mp hSlash)
  · exact isOpen_concat path

theorem isOpen_upToSlash (path : List Char) : IsOpen (upToSlash path) := by
  rw [IsOpen, upToSlash, List.reverse_eq_nil_iff, List.getLast?_reverse]
  cases hDrop : path.reverse.dropWhile (· != '/') with
  | nil => exact .inl rfl
  | cons c before =>
      have hStop := List.head?_dropWhile_not (· != '/') path.reverse
      rw [hDrop] at hStop
      right
      rw [List.head?_cons, bne_eq_false_iff_eq.mp hStop]

theorem isOpen_climb (path : List Char) : IsOpen (climb path) := by
  rw [climb]
  split
  · rename_i before hReverse
    dsimp only
    split
    · right
      rw [← List.head?_reverse, hReverse]
      rfl
    · exact isOpen_upToSlash _
  · exact isOpen_upToSlash path

/- The part up to the last slash reaches behind every slash. -/
theorem upToSlash_append (front back : List Char) :
    upToSlash (front ++ '/' :: back) = front ++ '/' :: upToSlash back := by
  rw [upToSlash, upToSlash, List.reverse_append, List.reverse_cons,
    List.append_assoc, List.dropWhile_append]
  split
  · rename_i hNone
    rw [List.isEmpty_iff.mp hNone]
    simp
  · simp

/- Climbing stops at a drive. -/
theorem exists_climb_append
    (hDrive : isDrive (lastSegment front) = true)
    (rest : List Char) :
    ∃ more, climb (front ++ '/' :: rest) = front ++ '/' :: more := by
  rw [climb]
  split
  · rename_i before hReverse
    dsimp only
    split
    · exact ⟨rest, rfl⟩
    · rename_i hFurther
      have hPath : front ++ '/' :: rest = before.reverse ++ ['/'] := by
        rw [← List.reverse_reverse (front ++ '/' :: rest), hReverse,
          List.reverse_cons]
      rcases List.eq_nil_or_concat' rest with rfl | ⟨more, d, rfl⟩
      · have hFront : front = before.reverse :=
          (List.append_inj' hPath rfl).1
        rw [← hFront, hDrive, Bool.or_true] at hFurther
        exact absurd rfl hFurther
      · rw [← List.cons_append, ← List.append_assoc] at hPath
        rw [← (List.append_inj' hPath rfl).1, upToSlash_append]
        exact ⟨_, rfl⟩
  · exact ⟨_, upToSlash_append front rest⟩

------------------------------------------------------------
-- Level Paths
------------------------------------------------------------

/-
  A segment that does not stay in a path as it is: dots, and among
  files a drive, if a bar stands for its colon or if it takes away
  a host.
-/
def isStep (kind : Kind) (hosted : Bool) (segment : List Char) : Bool :=
  isDot segment || isDoubleDot segment ||
    (kind == .file && isDrive segment &&
      (hosted || !isPlainDrive segment))

/- All segments of the path stay. -/
def IsLevel (kind : Kind) (hosted : Bool) (path : List Char) : Prop :=
  ∀ segment ∈ Text.cutAt (· == '/') path, isStep kind hosted segment = false

/- What stays behind a host stays without one. -/
theorem IsLevel.of_hosted
    (hLevel : IsLevel kind true path) :
    IsLevel kind false path := by
  intro segment hSegment
  have hStay := hLevel segment hSegment
  rw [isStep, Bool.or_eq_false_iff, Bool.true_or, Bool.and_true] at hStay
  rw [isStep, hStay.1, hStay.2]
  rfl

theorem isLevel_nil : IsLevel kind hosted [] := by
  intro segment hSegment
  rw [List.mem_singleton.mp hSegment]
  cases kind <;> rfl

/- A path is level on both sides of a slash. -/
theorem isLevel_append_cons
    {back : List Char} :
    IsLevel kind hosted (front ++ '/' :: back) ↔
      IsLevel kind hosted front ∧ IsLevel kind hosted back := by
  rw [IsLevel, Text.cutAt_append rfl, List.forall_mem_append]
  rfl

theorem isLevel_cons_slash :
    IsLevel kind hosted ('/' :: path) ↔ IsLevel kind hosted path := by
  rw [← List.nil_append ('/' :: path), isLevel_append_cons]
  exact and_iff_right isLevel_nil

/- No character of a segment is a slash. -/
theorem ne_slash_of_not_mem
    (hApart : '/' ∉ segment) :
    ∀ c ∈ segment, (c == '/') = false := by
  intro c hc
  rw [beq_eq_false_iff_ne]
  rintro rfl
  exact hApart hc

theorem isLevel_segment
    (hApart : '/' ∉ segment) :
    IsLevel kind hosted segment ↔ isStep kind hosted segment = false := by
  rw [IsLevel, Text.cutAt_eq_singleton (ne_slash_of_not_mem hApart),
    List.forall_mem_singleton]

theorem isLevel_concat :
    IsLevel kind hosted (path ++ ['/']) ↔ IsLevel kind hosted path := by
  rw [isLevel_append_cons]
  exact and_iff_left isLevel_nil

/- A level path is put behind an open one. -/
theorem IsLevel.append
    (hLevel : IsLevel kind hosted path)
    (hOpen : IsOpen path)
    (hMore : IsLevel kind hosted more) :
    IsLevel kind hosted (path ++ more) := by
  rcases hOpen with rfl | hSlash
  · exact hMore
  · rcases List.getLast?_eq_some_iff.mp hSlash with ⟨before, rfl⟩
    rw [List.append_assoc, List.singleton_append, isLevel_append_cons]
    exact ⟨isLevel_concat.mp hLevel, hMore⟩

/- An open start of a level path is level. -/
theorem IsLevel.of_prefix
    {start : List Char}
    (hLevel : IsLevel kind hosted path)
    (hOpen : IsOpen start)
    (hPrefix : start <+: path) :
    IsLevel kind hosted start := by
  rcases hPrefix with ⟨rest, rfl⟩
  rcases hOpen with rfl | hSlash
  · exact isLevel_nil
  · rcases List.getLast?_eq_some_iff.mp hSlash with ⟨before, rfl⟩
    rw [List.append_assoc, List.singleton_append,
      isLevel_append_cons] at hLevel
    exact isLevel_concat.mpr hLevel.1

theorem IsLevel.withSlash
    (hLevel : IsLevel kind hosted path) :
    IsLevel kind hosted (withSlash path) := by
  rw [Url.withSlash]
  split
  · exact hLevel
  · exact isLevel_concat.mpr hLevel

theorem IsLevel.slashIf
    (hLevel : IsLevel kind hosted path)
    (slash : Bool) :
    IsLevel kind hosted (path ++ slashIf slash) := by
  cases slash with
  | true => exact isLevel_concat.mpr hLevel
  | false => rwa [Url.slashIf, if_neg Bool.false_ne_true, List.append_nil]

------------------------------------------------------------
-- Drives
------------------------------------------------------------

theorem isPlainDrive_iff :
    isPlainDrive segment = true ↔
      ∃ a, Text.isLetter a = true ∧ segment = [a, ':'] := by
  constructor
  · intro hDrive
    rw [isPlainDrive, Bool.and_eq_true, beq_iff_eq] at hDrive
    rcases hDrive with ⟨hDrive, hLast⟩
    rw [isDrive.eq_def] at hDrive
    split at hDrive
    · rename_i a b
      rw [Bool.and_eq_true] at hDrive
      cases hLast
      exact ⟨a, hDrive.1, rfl⟩
    · cases hDrive
  · rintro ⟨a, hLetter, rfl⟩
    simp [isPlainDrive, isDrive, hLetter]

/- What follows a drive does not hide it. -/
theorem isPlainDrive_take_append
    (more : List Char)
    (hDrive : isPlainDrive (segment.take 2) = true) :
    isPlainDrive ((segment ++ more).take 2) = true := by
  rcases isPlainDrive_iff.mp hDrive with ⟨a, hLetter, hTake⟩
  refine isPlainDrive_iff.mpr ⟨a, hLetter, ?_⟩
  rw [← List.take_append_drop 2 segment, hTake]
  rfl

/- No drive ends in a slash. -/
theorem isPlainDrive_of_isOpen
    (hOpen : IsOpen path) :
    isPlainDrive path = false := by
  apply eq_false_of_ne_true
  intro hDrive
  rcases isPlainDrive_iff.mp hDrive with ⟨a, _, rfl⟩
  rcases hOpen with hNone | hSlash
  · cases hNone
  · cases hSlash

theorem IsOpen.drop
    (hOpen : IsOpen path)
    (n : Nat) :
    IsOpen (path.drop n) := by
  rcases hOpen with rfl | hSlash
  · exact .inl List.drop_nil
  · rw [IsOpen, List.getLast?_drop]
    split
    · rename_i hShort
      exact .inl (List.drop_of_length_le hShort)
    · exact .inr hSlash

/- A drive with a colon is no step. -/
theorem isStep_of_isPlainDrive
    (hDrive : isPlainDrive segment = true) :
    isStep kind false segment = false := by
  have hNoDot : dropDot? segment = none := by
    rcases isPlainDrive_iff.mp hDrive with ⟨a, hLetter, rfl⟩
    rw [dropDot?.eq_def]
    split
    · rename_i hDot
      cases hDot
      cases hLetter
    · rename_i hPercent
      cases hPercent
    · rfl
  rw [isStep, isDot, isDoubleDot, hNoDot, hDrive]
  simp

/- The letter of a drive with a colon behind it. -/
theorem isPlainDrive_take
    (hDrive : isDrive segment = true) :
    isPlainDrive (segment.take 1 ++ [':']) = true := by
  rw [isDrive.eq_def] at hDrive
  split at hDrive
  · rename_i a b
    rw [Bool.and_eq_true] at hDrive
    exact isPlainDrive_iff.mpr ⟨a, hDrive.1, rfl⟩
  · cases hDrive

theorem slash_not_mem_of_isPlainDrive
    (hDrive : isPlainDrive segment = true) :
    '/' ∉ segment := by
  rcases isPlainDrive_iff.mp hDrive with ⟨a, hLetter, rfl⟩
  intro hSlash
  rcases List.mem_pair.mp hSlash with rfl | hColon
  · cases hLetter
  · cases hColon

/-
  The path of files leads on behind the drive that it starts with.
-/
def IsOnDrive (path : List Char) : Prop :=
  ∃ drive rest, isPlainDrive drive = true ∧
    path = '/' :: drive ++ '/' :: rest

/- A path that was read: it is level, or leads on behind a drive. -/
def IsSteady (kind : Kind) (path : List Char) : Prop :=
  IsLevel kind false path ∨ (kind = .file ∧ IsOnDrive path)

/- Away from files, a path that was read is level. -/
theorem IsSteady.isLevel
    (hSteady : IsSteady kind path)
    (hFiles : kind ≠ .file) :
    IsLevel kind hosted path := by
  rcases hSteady with hLevel | ⟨hFile, _⟩
  · intro segment hSegment
    have hStep := hLevel segment hSegment
    rw [isStep, beq_eq_false_iff_ne.mpr hFiles] at hStep ⊢
    exact hStep
  · exact absurd hFile hFiles

/- The last segment of a drive at the start is the drive. -/
theorem isDrive_lastSegment
    {lead drive : List Char}
    (hLead : IsOpen lead)
    (hDrive : isPlainDrive drive = true) :
    isDrive (lastSegment (lead ++ drive)) = true := by
  rw [lastSegment_append hLead (slash_not_mem_of_isPlainDrive hDrive)]
  exact (Bool.and_eq_true _ _ ▸ hDrive).1

------------------------------------------------------------
-- Steps
------------------------------------------------------------

variable {r : PathReading}

/- Behind an open path, only a drive in front gets a slash. -/
theorem add_cases
    (slash : Bool)
    (hOpen : IsOpen r.path) :
    r.add kind segment slash = r.addSegment kind segment slash ∨
      (kind = .file ∧ r.path = ['/'] ∧
        isPlainDrive (segment.take 2) = true ∧
        r.add kind segment slash =
          { r with
            path := '/' :: segment.take 2 ++
              '/' :: (segment.drop 2 ++ slashIf slash) }) := by
  rw [PathReading.add]
  split
  · exact .inl rfl
  · rename_i hFile
    rw [isPlainDrive_of_isOpen (hOpen.drop 1), Bool.false_and,
      if_neg Bool.false_ne_true]
    split
    · rename_i hStart
      rw [Bool.and_eq_true, Bool.and_eq_true, beq_iff_eq] at hStart
      refine .inr ⟨by simpa using hFile, hStart.1.1, hStart.1.2, ?_⟩
      simp [hStart.1.1]
    · exact .inl rfl

/- Segments that stay are put behind the path. -/
theorem addSegment_of_not_isStep
    (slash : Bool)
    (hStay : isStep kind r.keepsHost segment = false) :
    r.addSegment kind segment slash =
      { r with path := r.path ++ segment ++ slashIf slash } := by
  rw [isStep, Bool.or_eq_false_iff, Bool.or_eq_false_iff] at hStay
  rcases hStay with ⟨⟨hDot, hDouble⟩, hDrive⟩
  rw [PathReading.addSegment, hDot, hDouble, if_neg Bool.false_ne_true,
    if_neg Bool.false_ne_true]
  split
  · rename_i hFile
    rw [hFile, Bool.true_and, Bool.or_eq_false_iff,
      Bool.not_eq_false'] at hDrive
    rcases isPlainDrive_iff.mp hDrive.2 with ⟨a, _, rfl⟩
    simp [hDrive.1]
  · rfl

/- Segments that stay are added as they are. -/
theorem add_of_not_isStep
    (slash : Bool)
    (hOpen : IsOpen r.path)
    (hStart : kind = .file → r.path = ['/'] →
      isPlainDrive (segment.take 2) = false)
    (hStay : isStep kind r.keepsHost segment = false) :
    r.add kind segment slash =
      { r with path := r.path ++ segment ++ slashIf slash } := by
  rcases add_cases slash hOpen with hAdd | ⟨hFile, hRoot, hDrive, _⟩
  · rw [hAdd, addSegment_of_not_isStep slash hStay]
  · rw [hStart hFile hRoot] at hDrive
    cases hDrive

/- With a slash behind it, a segment leaves the path open. -/
theorem isOpen_addSegment
    (kind : Kind)
    (r : PathReading)
    (segment : List Char) :
    IsOpen (r.addSegment kind segment true).path := by
  rw [PathReading.addSegment]
  split
  · exact isOpen_withSlash _
  · split
    · exact isOpen_withSlash _
    · split
      · exact isOpen_concat _
      · exact isOpen_concat _

theorem isOpen_add
    (hOpen : IsOpen r.path) :
    IsOpen (r.add kind segment true).path := by
  rcases add_cases true hOpen with hAdd | ⟨_, _, _, hAdd⟩
  · rw [hAdd]
    exact isOpen_addSegment kind r segment
  · rw [hAdd]
    show IsOpen ('/' :: segment.take 2 ++ '/' :: (segment.drop 2 ++ ['/']))
    rw [← List.cons_append, ← List.append_assoc]
    exact isOpen_concat _

/- A level path stays level. -/
theorem isLevel_addSegment
    (slash : Bool)
    (hOpen : IsOpen r.path)
    (hLevel : IsLevel kind false r.path)
    (hApart : '/' ∉ segment) :
    IsLevel kind false (r.addSegment kind segment slash).path := by
  rw [PathReading.addSegment]
  split
  · have hClimb :=
      hLevel.of_prefix (isOpen_climb r.path) (climb_isPrefix r.path)
    dsimp only
    split
    · exact hClimb.withSlash
    · exact hClimb
  · rename_i hDouble
    split
    · exact hLevel.withSlash
    · rename_i hDot
      split
      · rename_i hDrive
        rw [Bool.and_eq_true] at hDrive
        have hPlain := isPlainDrive_take hDrive.2
        have hLast : IsLevel kind false (segment.take 1 ++ [':']) :=
          (isLevel_segment (slash_not_mem_of_isPlainDrive hPlain)).mpr
            (isStep_of_isPlainDrive hPlain)
        have hPath := (hLevel.append hOpen hLast).slashIf slash
        rwa [← List.append_assoc] at hPath
      · rename_i hDrive
        refine (hLevel.append hOpen ((isLevel_segment hApart).mpr ?_)).slashIf
          slash
        rw [isStep, eq_false_of_ne_true hDot, eq_false_of_ne_true hDouble,
          eq_false_of_ne_true hDrive]
        rfl

/- What is added behind a drive stays behind it. -/
theorem exists_addSegment_append
    {rest : List Char}
    (kind : Kind)
    (segment : List Char)
    (slash : Bool)
    (hDrive : isDrive (lastSegment front) = true)
    (hPath : r.path = front ++ '/' :: rest) :
    ∃ more,
      (r.addSegment kind segment slash).path = front ++ '/' :: more := by
  have hSlash :
      ∀ more : List Char,
        ∃ later, withSlash (front ++ '/' :: more) = front ++ '/' :: later := by
    intro more
    rw [withSlash]
    split
    · exact ⟨more, rfl⟩
    · exact ⟨more ++ ['/'], by simp⟩
  rw [PathReading.addSegment, hPath]
  split
  · rcases exists_climb_append hDrive rest with ⟨more, hClimb⟩
    dsimp only
    rw [hClimb]
    split
    · exact hSlash more
    · exact ⟨more, rfl⟩
  · split
    · exact hSlash rest
    · split
      · exact ⟨rest ++ segment.take 1 ++ [':'] ++ slashIf slash, by simp⟩
      · exact ⟨rest ++ segment ++ slashIf slash, by simp⟩

/- A path that was read stays one. -/
theorem IsSteady.add
    (slash : Bool)
    (hSteady : IsSteady kind r.path)
    (hOpen : IsOpen r.path)
    (hApart : '/' ∉ segment) :
    IsSteady kind (r.add kind segment slash).path := by
  rcases add_cases slash hOpen with hAdd | ⟨hFile, _, hDrive, hAdd⟩
  · rw [hAdd]
    rcases hSteady with hLevel | ⟨hFile, drive, rest, hDrive, hPath⟩
    · exact .inl (isLevel_addSegment slash hOpen hLevel hApart)
    · have hFront : isDrive (lastSegment ('/' :: drive)) = true :=
        isDrive_lastSegment (isOpen_concat []) hDrive
      rcases exists_addSegment_append kind segment slash hFront hPath with
        ⟨more, hMore⟩
      exact .inr ⟨hFile, drive, more, hDrive, hMore⟩
  · rw [hAdd]
    exact .inr ⟨hFile, segment.take 2, _, hDrive, rfl⟩

------------------------------------------------------------
-- Runs
------------------------------------------------------------

/- A slash does not come from another character. -/
theorem slash_not_mem_encodeChar
    {c : Char}
    (hc : isSlash kind c = false) :
    '/' ∉ encodeChar inPath c := by
  intro hSlash
  have hMem : '/' ∈ encode inPath [c] := by
    rw [encode, List.flatMap_cons]
    exact List.mem_append_left _ hSlash
  rcases mem_encode_cases hMem with ⟨hSame, _⟩ | hPercent | hDigit
  · rw [← List.mem_singleton.mp hSame] at hc
    cases hc
  · cases hPercent
  · cases hDigit

/- What is read of a path is level or on a drive. -/
theorem IsSteady.readSegments
    (input : List Char)
    (hSteady : IsSteady kind r.path)
    (hOpen : IsOpen r.path)
    (hApart : '/' ∉ segment) :
    IsSteady kind (readSegments kind r segment input).1.path := by
  induction input generalizing r segment with
  | nil => exact hSteady.add false hOpen hApart
  | cons c input ih =>
      rw [Url.readSegments]
      split
      · exact ih (hSteady.add true hOpen hApart) (isOpen_add hOpen)
          List.not_mem_nil
      · rename_i hOther
        split
        · exact hSteady.add false hOpen hApart
        · apply ih hSteady hOpen
          rw [List.mem_append, not_or]
          exact ⟨hApart, slash_not_mem_encodeChar
            (eq_false_of_ne_true hOther)⟩

/- One slash in front leaves a path level. -/
theorem IsLevel.oneSlash
    (hLevel : IsLevel kind hosted path) :
    IsLevel kind hosted ('/' :: path.dropWhile (· == '/')) := by
  have hDrop : IsLevel kind hosted (path.dropWhile (· == '/')) := by
    induction path with
    | nil => exact hLevel
    | cons c path ih =>
        rw [List.dropWhile_cons]
        split
        · rename_i hSlash
          rw [beq_iff_eq.mp hSlash] at hLevel
          exact ih (isLevel_cons_slash.mp hLevel)
        · exact hLevel
  exact isLevel_cons_slash.mpr hDrop

/- A path on a drive has one slash in front. -/
theorem IsOnDrive.oneSlash
    (hDrive : IsOnDrive path) :
    '/' :: path.dropWhile (· == '/') = path := by
  rcases hDrive with ⟨drive, rest, hDrive, rfl⟩
  rcases isPlainDrive_iff.mp hDrive with ⟨a, hLetter, rfl⟩
  have hOther : (a == '/') = false := by
    rw [beq_eq_false_iff_ne]
    rintro rfl
    cases hLetter
  simp [hOther]

/- One slash in front leaves a path steady. -/
theorem IsSteady.oneSlash
    (hSteady : IsSteady kind path) :
    IsSteady kind ('/' :: path.dropWhile (· == '/')) := by
  rcases hSteady with hLevel | ⟨hFile, hDrive⟩
  · exact .inl hLevel.oneSlash
  · rw [hDrive.oneSlash]
    exact .inr ⟨hFile, hDrive⟩

theorem IsSteady.readPath
    (keepsHost : Bool)
    (input : List Char)
    (hSteady : IsSteady kind path)
    (hOpen : IsOpen path) :
    IsSteady kind (readPath kind keepsHost path input).1.path := by
  have hRead :=
    IsSteady.readSegments (r := ⟨path, keepsHost⟩) input hSteady hOpen
      List.not_mem_nil
  rw [Url.readPath]
  dsimp only
  split
  · exact hRead.oneSlash
  · exact hRead

theorem isSteady_root (kind : Kind) : IsSteady kind ['/'] :=
  .inl (isLevel_concat.mpr isLevel_nil)

------------------------------------------------------------
-- Reading Back
------------------------------------------------------------

/- A character that is read in a path as it is. -/
def IsWritten (kind : Kind) (c : Char) : Prop :=
  inPath c = false ∧ (isSlash kind c = true → c = '/')

/- The characters of a path that was read are such a class. -/
theorem isClass_isWritten (kind : Kind) :
    IsClass kind (IsWritten kind) := by
  refine ⟨⟨by decide, fun _ => rfl⟩, ⟨by decide, fun hSlash => ?_⟩, ?_⟩
  · cases kind <;> cases hSlash
  · intro c hc d hd
    have hMem : d ∈ encode inPath [c] := by
      rw [encode, List.flatMap_cons]
      exact List.mem_append_left _ hd
    rcases mem_encode_cases hMem with ⟨hSame, hOut⟩ | rfl | hDigit
    · refine ⟨hOut, fun hSlash => ?_⟩
      rw [List.mem_singleton.mp hSame, hc] at hSlash
      cases hSlash
    · refine ⟨by decide, fun hSlash => ?_⟩
      cases kind <;> cases hSlash
    · have hPlain :=
        Text.forall_hexDigit
          (P := fun c =>
            inPath c = false ∧ (c == '/' || c == '\\') = false)
          (by decide) hDigit
      refine ⟨hPlain.1, fun hSlash => ?_⟩
      have hNone := Bool.or_eq_false_iff.mp hPlain.2
      rw [isSlash, hNone.1, hNone.2] at hSlash
      cases hSlash

/- Put the segments of a path behind what is there of it. -/
def PathReading.addAll (kind : Kind) (r : PathReading) :
    List (List Char) → PathReading
  | [] => r
  | [last] => r.add kind last false
  | segment :: next :: segments =>
      PathReading.addAll kind (r.add kind segment true) (next :: segments)

/- A slash follows every segment but the last. -/
theorem addAll_cons
    {segments : List (List Char)}
    (kind : Kind)
    (r : PathReading)
    (segment : List Char)
    (hMore : segments ≠ []) :
    r.addAll kind (segment :: segments) =
      (r.add kind segment true).addAll kind segments := by
  cases segments with
  | nil => exact absurd rfl hMore
  | cons next segments => rfl

/- A path that was read is read segment by segment. -/
theorem readSegments_eq_addAll
    {rest ending : List Char}
    (hWritten : ∀ c ∈ rest, IsWritten kind c)
    (hApart : '/' ∉ segment)
    (hEnd : ∀ c ∈ ending.head?, c = '?' ∨ c = '#') :
    readSegments kind r segment (rest ++ ending) =
      (r.addAll kind (Text.cutAt (· == '/') (segment ++ rest)), ending) := by
  have hInside := ne_slash_of_not_mem hApart
  induction rest generalizing r segment with
  | nil =>
      rw [List.append_nil, Text.cutAt_eq_singleton hInside]
      cases ending with
      | nil => rfl
      | cons c ending =>
          have hc : isSlash kind c = false ∧ (c == '?' || c == '#') = true := by
            rcases hEnd c rfl with rfl | rfl
            · cases kind <;> decide
            · cases kind <;> decide
          rw [List.nil_append, readSegments, hc.1,
            if_neg Bool.false_ne_true, if_pos hc.2]
          rfl
  | cons c rest ih =>
      have hc := hWritten c List.mem_cons_self
      have hRest : ∀ d ∈ rest, IsWritten kind d := fun d hd =>
        hWritten d (List.mem_cons_of_mem c hd)
      rw [List.cons_append, readSegments]
      split
      · rename_i hSlash
        rw [hc.2 hSlash, Text.cutAt_append_cons hInside (by decide),
          addAll_cons _ _ _ (Text.cutAt_ne_nil _ _)]
        exact ih hRest List.not_mem_nil (List.forall_mem_nil _)
      · rename_i hSlash
        have hMark : (c == '?' || c == '#') = false := by
          rw [Bool.or_eq_false_iff, beq_eq_false_iff_ne, beq_eq_false_iff_ne]
          constructor
          · rintro rfl
            exact absurd hc.1 (by decide)
          · rintro rfl
            exact absurd hc.1 (by decide)
        have hOther : c ≠ '/' := by
          rintro rfl
          exact hSlash rfl
        rw [hMark, if_neg Bool.false_ne_true, encodeChar, hc.1,
          if_neg Bool.false_ne_true, ih hRest]
        · rw [List.append_assoc, List.singleton_append]
        · rw [List.mem_append, List.mem_singleton, not_or]
          exact ⟨hApart, hOther.symm⟩
        · intro d hd
          rcases List.mem_append.mp hd with hMem | hLast
          · exact hInside d hMem
          · rw [List.mem_singleton.mp hLast]
            exact beq_eq_false_iff_ne.mpr hOther

/-
  Segments that stay are put behind the path.  At the root of
  files, the first of them must not start like a drive.
-/
theorem addAll_of_not_isStep
    {segments : List (List Char)}
    (hOpen : r.path.getLast? = some '/')
    (hStay : ∀ segment ∈ segments, isStep kind r.keepsHost segment = false)
    (hStart : kind = .file → r.path = ['/'] →
      ∀ segment ∈ segments.head?, isPlainDrive (segment.take 2) = false) :
    r.addAll kind segments =
      { r with path := r.path ++ Text.joinWith ['/'] segments } := by
  induction segments generalizing r with
  | nil => simp [PathReading.addAll, Text.joinWith]
  | cons segment segments ih =>
      have hFirst : ∀ slash,
          r.add kind segment slash =
            { r with path := r.path ++ segment ++ slashIf slash } :=
        fun slash => add_of_not_isStep slash (.inr hOpen)
          (fun hFile hRoot => hStart hFile hRoot segment rfl)
          (hStay segment List.mem_cons_self)
      cases segments with
      | nil =>
          rw [PathReading.addAll, hFirst]
          simp [Text.joinWith, slashIf]
      | cons next segments =>
          -- behind the first slash, the path is no longer the root
          have hBehind : r.path ++ segment ++ ['/'] ≠ ['/'] := by
            intro hRoot
            have hNone : r.path ++ segment = [] :=
              List.append_cancel_right (hRoot.trans (List.nil_append _).symm)
            rw [(List.append_eq_nil_iff.mp hNone).1] at hOpen
            cases hOpen
          have hRest :=
            ih (r := { r with path := r.path ++ segment ++ ['/'] })
              List.getLast?_concat
              (fun s hs => hStay s (List.mem_cons_of_mem _ hs))
              (fun _ hRoot => absurd hRoot hBehind)
          rw [PathReading.addAll, hFirst]
          refine hRest.trans ?_
          rw [Text.joinWith_cons_cons]
          simp

/- A level path is read as it stands, up to the end of the text. -/
theorem readSegments_of_isLevel
    {rest ending : List Char}
    (hOpen : r.path.getLast? = some '/')
    (hLevel : IsLevel kind r.keepsHost rest)
    (hWritten : ∀ c ∈ rest, IsWritten kind c)
    (hStart : kind = .file → r.path = ['/'] →
      isPlainDrive (rest.take 2) = false)
    (hEnd : ∀ c ∈ ending.head?, c = '?' ∨ c = '#') :
    readSegments kind r [] (rest ++ ending) =
      ({ r with path := r.path ++ rest }, ending) := by
  have hFirst :
      ∀ segment ∈ (Text.cutAt (· == '/') rest).head?,
        isPlainDrive (segment.take 2) = true →
          isPlainDrive (rest.take 2) = true := by
    intro segment hSegment hDrive
    rcases List.head?_eq_some_iff.mp hSegment with ⟨segments, hCut⟩
    have hText := Text.joinWith_cutAt '/' rest
    rw [hCut] at hText
    rw [← hText]
    cases segments with
    | nil => exact hDrive
    | cons next segments =>
        rw [Text.joinWith_cons_cons]
        exact isPlainDrive_take_append _ hDrive
  rw [readSegments_eq_addAll hWritten List.not_mem_nil hEnd,
    List.nil_append, addAll_of_not_isStep hOpen hLevel,
    Text.joinWith_cutAt]
  intro hFile hRoot segment hSegment
  apply eq_false_of_ne_true
  intro hDrive
  have hNone := hStart hFile hRoot
  rw [hFirst segment hSegment hDrive] at hNone
  cases hNone

end Url

end Gleaner
