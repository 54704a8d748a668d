import Gleaner.Proofs.Url.Encode
import Gleaner.Url.Path
import Mathlib.Data.List.TakeWhile

/-
  Paths hold no controls and no question marks, and dots do not
  lead out of the root.

  Main declarations:
    * `Url.IsPath`
    * `Url.IsRooted`
    * `Url.IsClass`
    * `Url.IsClass.readPath`
    * `Url.isPath_readPath`
    * `Url.isRooted_readPath`
    * `Url.readPath_suffix`
-/

namespace Gleaner

namespace Url

------------------------------------------------------------
-- Paths
------------------------------------------------------------

/- A character that stands in a path as it is. -/
def isPathChar (c : Char) : Bool :=
  !isControl c && c != '?'

/- The characters of a path stand in it as they are. -/
def IsPath (path : List Char) : Prop :=
  ∀ c ∈ path, isPathChar c = true

/- The path starts at the root. -/
def IsRooted (path : List Char) : Prop :=
  path.head? = some '/'

variable {kind : Kind}
variable {path segment : List Char}

theorem IsPath.append
    {more : List Char}
    (hPath : IsPath path)
    (hMore : IsPath more) :
    IsPath (path ++ more) := by
  intro c hc
  rcases List.mem_append.mp hc with hc | hc
  · exact hPath c hc
  · exact hMore c hc

theorem IsPath.mono
    {part : List Char}
    (hPath : IsPath path)
    (hPart : part ⊆ path) :
    IsPath part :=
  fun c hc => hPath c (hPart hc)

theorem isPath_slash : IsPath ['/'] := by
  intro c hc
  rw [List.mem_singleton.mp hc]
  decide

theorem IsRooted.append
    (hPath : IsRooted path)
    (more : List Char) :
    IsRooted (path ++ more) := by
  rw [IsRooted, List.head?_append, hPath]
  rfl

/- The start of a path from the root starts at the root. -/
theorem IsRooted.of_prefix
    {start : List Char}
    (hPath : IsRooted path)
    (hPrefix : start <+: path)
    (hSome : start ≠ []) :
    IsRooted start := by
  rcases hPrefix with ⟨more, rfl⟩
  cases start with
  | nil => exact absurd rfl hSome
  | cons c start => exact hPath

/-
  A property of all characters that a path is made of: slashes,
  the colons of drives, and characters that are no slashes, once
  they are encoded.
-/
structure IsClass (kind : Kind) (P : Char → Prop) : Prop where
  slash : P '/'
  colon : P ':'
  encoded : ∀ c, isSlash kind c = false →
    ∀ d ∈ encodeChar inPath c, P d

/- The characters of an encoded segment stand in a path. -/
theorem isPath_encodeChar (c : Char) :
    IsPath (encodeChar inPath c) := by
  have hEncode :
      ∀ d ∈ encode inPath [c], isPathChar d = true := by
    apply forall_mem_encode
    · decide
    · decide
    · intro d _ hOut
      simp only [inPath, inFragment, Bool.or_eq_false_iff] at hOut
      have hMark : d ≠ '?' := by
        rintro rfl
        exact absurd hOut.2 (by decide)
      simp [isPathChar, hOut.1.1, hMark]
  intro d hd
  apply hEncode d
  rw [encode, List.flatMap_cons]
  exact List.mem_append_left _ hd

/- The characters that stand in a path are such a class. -/
theorem isClass_isPathChar (kind : Kind) :
    IsClass kind (isPathChar · = true) :=
  ⟨by decide, by decide, fun c _ => isPath_encodeChar c⟩

------------------------------------------------------------
-- Steps
------------------------------------------------------------

/- The part of a path up to its last slash. -/
theorem upToSlash_isPrefix (path : List Char) :
    upToSlash path <+: path := by
  rw [upToSlash, ← List.reverse_suffix, List.reverse_reverse]
  exact List.dropWhile_suffix _

theorem IsRooted.upToSlash (hPath : IsRooted path) :
    IsRooted (upToSlash path) := by
  apply hPath.of_prefix (upToSlash_isPrefix path)
  intro hNone
  rw [Url.upToSlash, List.reverse_eq_nil_iff,
    List.dropWhile_eq_nil_iff] at hNone
  have hSlash : '/' ∈ path := List.mem_of_mem_head? hPath
  exact absurd (hNone '/' (List.mem_reverse.mpr hSlash)) (by decide)

/- Climbing leaves the start of a path. -/
theorem climb_isPrefix (path : List Char) :
    climb path <+: path := by
  rw [climb]
  split
  · rename_i before hReverse
    dsimp only
    split
    · exact List.prefix_refl path
    · have hPath : path = before.reverse ++ ['/'] := by
        rw [← List.reverse_reverse path, hReverse, List.reverse_cons]
      exact (upToSlash_isPrefix _).trans ⟨['/'], hPath.symm⟩
  · exact upToSlash_isPrefix path

/- Climbing does not lead out of the root. -/
theorem IsRooted.climb (hPath : IsRooted path) :
    IsRooted (climb path) := by
  rw [Url.climb]
  split
  · rename_i before hReverse
    dsimp only
    split
    · exact hPath
    · rename_i hFurther
      have hSplit : path = before.reverse ++ ['/'] := by
        rw [← List.reverse_reverse path, hReverse, List.reverse_cons]
      apply IsRooted.upToSlash
      apply hPath.of_prefix ⟨['/'], hSplit.symm⟩
      rintro hNone
      rw [hNone] at hFurther
      exact hFurther rfl
  · exact hPath.upToSlash

theorem IsRooted.withSlash (hPath : IsRooted path) :
    IsRooted (withSlash path) := by
  rw [Url.withSlash]
  split
  · exact hPath
  · exact hPath.append _

section Classes

variable {P : Char → Prop}
variable {r : PathReading}

/- A path with a slash at its end is made of the same characters. -/
theorem IsClass.withSlash
    (hClass : IsClass kind P)
    (hPath : ∀ c ∈ path, P c) :
    ∀ c ∈ Url.withSlash path, P c := by
  rw [Url.withSlash]
  split
  · exact hPath
  · rw [List.forall_mem_append]
    exact ⟨hPath, List.forall_mem_singleton.mpr hClass.slash⟩

theorem IsClass.slashIf
    (hClass : IsClass kind P)
    (slash : Bool) :
    ∀ c ∈ Url.slashIf slash, P c := by
  cases slash with
  | false => exact List.forall_mem_nil _
  | true => exact List.forall_mem_singleton.mpr hClass.slash

/- A segment is put behind a path. -/
theorem IsClass.addSegment
    (hClass : IsClass kind P)
    (slash : Bool)
    (hPath : ∀ c ∈ r.path, P c)
    (hSegment : ∀ c ∈ segment, P c) :
    ∀ c ∈ (r.addSegment kind segment slash).path, P c := by
  rw [PathReading.addSegment]
  split
  · have hClimb : ∀ c ∈ climb r.path, P c := fun c hc =>
      hPath c ((climb_isPrefix r.path).subset hc)
    dsimp only
    split
    · exact hClass.withSlash hClimb
    · exact hClimb
  · split
    · exact hClass.withSlash hPath
    · split
      · simp only [List.forall_mem_append, List.forall_mem_singleton]
        exact ⟨⟨⟨hPath, fun c hc => hSegment c (List.mem_of_mem_take hc)⟩,
          hClass.colon⟩, hClass.slashIf slash⟩
      · simp only [List.forall_mem_append]
        exact ⟨⟨hPath, hSegment⟩, hClass.slashIf slash⟩

/- A segment is put behind a path, and drives get their slash. -/
theorem IsClass.add
    (hClass : IsClass kind P)
    (slash : Bool)
    (hPath : ∀ c ∈ r.path, P c)
    (hSegment : ∀ c ∈ segment, P c) :
    ∀ c ∈ (r.add kind segment slash).path, P c := by
  rw [PathReading.add]
  split
  · exact hClass.addSegment slash hPath hSegment
  · split
    · refine hClass.addSegment slash ?_ hSegment
      rw [List.forall_mem_append]
      exact ⟨hPath, List.forall_mem_singleton.mpr hClass.slash⟩
    · split
      · simp only [List.forall_mem_append, List.forall_mem_singleton]
        exact ⟨⟨⟨⟨hPath, fun c hc => hSegment c (List.mem_of_mem_take hc)⟩,
          hClass.slash⟩, fun c hc => hSegment c (List.mem_of_mem_drop hc)⟩,
          hClass.slashIf slash⟩
      · exact hClass.addSegment slash hPath hSegment

end Classes

theorem isRooted_addSegment
    {r : PathReading}
    (slash : Bool)
    (hPath : IsRooted r.path) :
    IsRooted (r.addSegment kind segment slash).path := by
  rw [PathReading.addSegment]
  split
  · dsimp only
    split
    · exact hPath.climb.withSlash
    · exact hPath.climb
  · split
    · exact hPath.withSlash
    · split
      · exact ((hPath.append _).append _).append _
      · exact (hPath.append _).append _

theorem isRooted_add
    {r : PathReading}
    (slash : Bool)
    (hPath : IsRooted r.path) :
    IsRooted (r.add kind segment slash).path := by
  rw [PathReading.add]
  split
  · exact isRooted_addSegment slash hPath
  · split
    · exact isRooted_addSegment slash (hPath.append _)
    · split
      · exact (((hPath.append _).append _).append _).append _
      · exact isRooted_addSegment slash hPath

------------------------------------------------------------
-- Runs
------------------------------------------------------------

/- What is read of a path is made of the characters of paths. -/
theorem IsClass.readSegments
    {P : Char → Prop}
    {r : PathReading}
    (hClass : IsClass kind P)
    (input : List Char)
    (hPath : ∀ c ∈ r.path, P c)
    (hSegment : ∀ c ∈ segment, P c) :
    ∀ c ∈ (readSegments kind r segment input).1.path, P c := by
  induction input generalizing r segment with
  | nil => exact hClass.add false hPath hSegment
  | cons c input ih =>
      rw [Url.readSegments]
      split
      · exact ih (hClass.add true hPath hSegment) (List.forall_mem_nil _)
      · rename_i hOther
        split
        · exact hClass.add false hPath hSegment
        · apply ih hPath
          rw [List.forall_mem_append]
          exact ⟨hSegment, hClass.encoded c (eq_false_of_ne_true hOther)⟩

/- A path that starts at the root is not left. -/
theorem isRooted_readSegments
    {r : PathReading}
    (input : List Char)
    (hPath : IsRooted r.path) :
    IsRooted (readSegments kind r segment input).1.path := by
  induction input generalizing r segment with
  | nil => exact isRooted_add false hPath
  | cons c input ih =>
      rw [readSegments]
      split
      · exact ih (isRooted_add true hPath)
      · split
        · exact isRooted_add false hPath
        · exact ih hPath

/- What follows a path is the end of the text. -/
theorem readSegments_suffix
    (kind : Kind)
    (r : PathReading)
    (segment input : List Char) :
    (readSegments kind r segment input).2 <:+ input := by
  induction input generalizing r segment with
  | nil => exact List.suffix_refl []
  | cons c input ih =>
      rw [readSegments]
      split
      · exact (ih _ _).trans (List.suffix_cons c input)
      · split
        · exact List.suffix_refl _
        · exact (ih _ _).trans (List.suffix_cons c input)

/- What is read behind a path is made of the characters of paths. -/
theorem IsClass.readPath
    {P : Char → Prop}
    (hClass : IsClass kind P)
    (keepsHost : Bool)
    (input : List Char)
    (hPath : ∀ c ∈ path, P c) :
    ∀ c ∈ (readPath kind keepsHost path input).1.path, P c := by
  have hRead : ∀ c ∈
      (Url.readSegments kind ⟨path, keepsHost⟩ [] input).1.path, P c :=
    hClass.readSegments input hPath (List.forall_mem_nil _)
  rw [Url.readPath]
  dsimp only
  split
  · rw [List.forall_mem_cons]
    exact ⟨hClass.slash, fun c hc =>
      hRead c ((List.dropWhile_suffix _).subset hc)⟩
  · exact hRead

theorem isPath_readPath
    (kind : Kind)
    (keepsHost : Bool)
    (input : List Char)
    (hPath : IsPath path) :
    IsPath (readPath kind keepsHost path input).1.path :=
  (isClass_isPathChar kind).readPath keepsHost input hPath

/- A path that starts at the root is not left, nor one of files. -/
theorem isRooted_readPath
    (kind : Kind)
    (keepsHost : Bool)
    (input : List Char)
    (hPath : kind = .file ∨ IsRooted path) :
    IsRooted (readPath kind keepsHost path input).1.path := by
  rw [readPath]
  dsimp only
  split
  · rfl
  · rename_i hWeb
    rcases hPath with rfl | hPath
    · exact absurd rfl hWeb
    · exact isRooted_readSegments input hPath

/- What follows a path is the end of the text. -/
theorem readPath_suffix
    (kind : Kind)
    (keepsHost : Bool)
    (path input : List Char) :
    (readPath kind keepsHost path input).2 <:+ input := by
  have hRead :=
    readSegments_suffix kind ⟨path, keepsHost⟩ [] input
  rw [readPath]
  dsimp only
  split
  · exact hRead
  · exact hRead

/- The path behind an authority is made of the characters of paths. -/
theorem IsClass.readPathStart
    {P : Char → Prop}
    (hClass : IsClass kind P)
    (keepsHost : Bool)
    (input : List Char) :
    ∀ c ∈ (readPathStart kind keepsHost input).1.path, P c := by
  have hSlash : ∀ c ∈ ['/'], P c :=
    List.forall_mem_singleton.mpr hClass.slash
  rw [readPathStart.eq_def]
  split
  · split
    · exact hClass.readPath keepsHost [] hSlash
    · exact List.forall_mem_nil _
  · split
    · exact hClass.readPath keepsHost _ hSlash
    · split
      · exact List.forall_mem_nil _
      · exact hClass.readPath keepsHost _ hSlash

theorem isPath_readPathStart
    (kind : Kind)
    (keepsHost : Bool)
    (input : List Char) :
    IsPath (readPathStart kind keepsHost input).1.path :=
  (isClass_isPathChar kind).readPathStart keepsHost input

/-
  The path behind an authority starts at the root.  Only a scheme
  that is not special may go without.
-/
theorem isRooted_readPathStart
    (kind : Kind)
    (keepsHost : Bool)
    (input : List Char) :
    (kind.isSpecial = false ∧
        (readPathStart kind keepsHost input).1.path = []) ∨
      IsRooted (readPathStart kind keepsHost input).1.path := by
  rw [readPathStart.eq_def]
  split
  · split
    · exact .inr (isRooted_readPath kind keepsHost _ (.inr rfl))
    · rename_i hOther
      exact .inl ⟨eq_false_of_ne_true hOther, rfl⟩
  · split
    · exact .inr (isRooted_readPath kind keepsHost _ (.inr rfl))
    · split
      · rename_i hOther
        rw [Bool.and_eq_true, Bool.not_eq_true'] at hOther
        exact .inl ⟨hOther.1, rfl⟩
      · exact .inr (isRooted_readPath kind keepsHost _ (.inr rfl))

/- What follows the path behind an authority ends the text. -/
theorem readPathStart_suffix
    (kind : Kind)
    (keepsHost : Bool)
    (input : List Char) :
    (readPathStart kind keepsHost input).2 <:+ input := by
  rw [readPathStart.eq_def]
  split
  · split
    · exact readPath_suffix kind keepsHost _ _
    · exact List.suffix_refl _
  · split
    · exact (readPath_suffix kind keepsHost _ _).trans (List.suffix_cons _ _)
    · split
      · exact List.suffix_refl _
      · exact readPath_suffix kind keepsHost _ _

end Url

end Gleaner
