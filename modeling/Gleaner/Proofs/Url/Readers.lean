import Gleaner.Url.Parse

/-
  What each reader of URLs can answer.  The readers are taken
  apart only here: what holds of every URL that is read is proved
  by cases on the relations below.

  Main declarations:
    * `Url.exists_of_readServer`
    * `Url.OtherRead`
    * `Url.RelativeRead`
    * `Url.FileServerRead`
    * `Url.RootRead`
    * `Url.FileRead`
    * `Url.SchemeRead`
    * `Url.TextRead`
-/

namespace Gleaner

namespace Url

variable {scheme : String}
variable {cs : List Char}
variable {u : Url}

------------------------------------------------------------
-- Behind two slashes
------------------------------------------------------------

/- Behind two slashes stand an authority and a path. -/
theorem exists_of_readServer
    (hRead : readServer scheme cs = .ok u) :
    ∃ a rest, takeAuthority scheme cs = .ok (a, rest) ∧
      u = finish scheme (some a)
        (readPathStart (.ofScheme scheme) true rest).1.path
        (readPathStart (.ofScheme scheme) true rest).2 := by
  rw [readServer] at hRead
  simp only [bind, Except.bind, pure, Except.pure] at hRead
  split at hRead
  · cases hRead
  · rename_i taken hTake
    cases hRead
    exact ⟨_, _, hTake, rfl⟩

------------------------------------------------------------
-- Schemes that are not special
------------------------------------------------------------

/- What `readOther` answers: only a path from the root has a slash. -/
inductive OtherRead (scheme : String) (cs : List Char) : Url → Prop
  | server {rest : List Char} {u : Url}
      (hRest : rest <:+ cs)
      (hRead : readServer scheme rest = .ok u) :
      OtherRead scheme cs u
  | root {rest : List Char}
      (hRest : rest <:+ cs) :
      OtherRead scheme cs
        (finish scheme none (readPath .other true ['/'] rest).1.path
          (readPath .other true ['/'] rest).2)
  | flat
      (hSlash : ∀ rest, cs ≠ '/' :: rest) :
      OtherRead scheme cs
        (finish scheme none
          (encode isControl (cs.takeWhile fun c => !(c == '?' || c == '#')))
          (cs.dropWhile fun c => !(c == '?' || c == '#')))

theorem otherRead_of_readOther
    (hRead : readOther scheme cs = .ok u) :
    OtherRead scheme cs u := by
  rw [readOther.eq_def] at hRead
  split at hRead
  · exact .server
      ((List.suffix_cons _ _).trans (List.suffix_cons _ _)) hRead
  · cases hRead
    exact .root (List.suffix_cons _ _)
  · rename_i hSlash
    cases hRead
    exact .flat hSlash

------------------------------------------------------------
-- Texts in the place of a URL
------------------------------------------------------------

/-
  What `readRelative` answers.  A path takes the place of the last
  segment of the base, if there is one.
-/
inductive RelativeRead (base : Url) (cs : List Char) : Url → Prop
  | same : RelativeRead base cs base.dropFragment
  | fragment {rest : List Char}
      (hRest : rest <:+ cs) :
      RelativeRead base cs (withFragment base rest)
  | query :
      RelativeRead base cs
        (finish base.scheme base.authority base.path cs)
  | server {rest : List Char} {u : Url}
      (hRest : rest <:+ cs)
      (hRead : readServer base.scheme rest = .ok u) :
      RelativeRead base cs u
  | root {rest : List Char}
      (hRest : rest <:+ cs) :
      RelativeRead base cs
        (finish base.scheme base.authority
          (readPath base.kind true ['/'] rest).1.path
          (readPath base.kind true ['/'] rest).2)
  | last
      (hStart : dropLast base.kind base.path ≠ []) :
      RelativeRead base cs
        (finish base.scheme base.authority
          (readPath base.kind true (dropLast base.kind base.path)
            cs).1.path
          (readPath base.kind true (dropLast base.kind base.path) cs).2)

theorem relativeRead_of_readRelative
    {base : Url}
    (hRead : readRelative base cs = .ok u) :
    RelativeRead base cs u := by
  rw [readRelative.eq_def] at hRead
  dsimp only at hRead
  split at hRead
  · cases hRead
    exact .same
  · cases hRead
    exact .fragment (List.suffix_cons _ _)
  · cases hRead
    exact .query
  · exact .server
      ((List.suffix_cons _ _).trans (List.suffix_cons _ _)) hRead
  · split at hRead
    · split at hRead
      · exact .server
          ((List.dropWhile_suffix _).trans (List.suffix_cons _ _)) hRead
      · cases hRead
        exact .root (List.suffix_cons _ _)
    · cases hRead
      split
      · exact .root (List.suffix_refl _)
      · rename_i hStart
        exact .last (mt List.isEmpty_iff.mpr hStart)

------------------------------------------------------------
-- Files
------------------------------------------------------------

/- What `readFileServer` answers: files of this computer or of a host. -/
inductive FileServerRead (cs : List Char) : Url → Prop
  | own {rest : List Char}
      (hRest : rest <:+ cs) :
      FileServerRead cs
        (finish "file" (fileAuthority none)
          (readPath .file false ['/'] rest).1.path
          (readPath .file false ['/'] rest).2)
  | host {name rest : List Char} {host : Host}
      (hRest : rest <:+ cs)
      (hHost : readDomain name = .ok host)
      (hAway : host ≠ .name "localhost") :
      FileServerRead cs
        (finish "file"
          (fileAuthority (if (readPathStart .file true rest).1.keepsHost
            then some host else none))
          (readPathStart .file true rest).1.path
          (readPathStart .file true rest).2)

theorem fileServerRead_of_readFileServer
    (hRead : readFileServer cs = .ok u) :
    FileServerRead cs u := by
  rw [readFileServer] at hRead
  simp only [bind, Except.bind, pure, Except.pure] at hRead
  split at hRead
  · cases hRead
    apply FileServerRead.own
    split
    · exact List.dropWhile_suffix _
    · exact List.suffix_refl _
  · split at hRead
    · cases hRead
    · rename_i host hHost
      split at hRead
      · cases hRead
        exact .own (List.dropWhile_suffix _)
      · rename_i hAway
        cases hRead
        exact .host (List.dropWhile_suffix _) hHost hAway

/-
  What a path from the root starts with: a drive of its own, the
  drive of the base or the host of the base.
-/
inductive RootRead (base : Option Url) (cs : List Char) : Url → Prop
  | own :
      RootRead base cs
        (finish "file" (fileAuthority none)
          (readPath .file false [] cs).1.path
          (readPath .file false [] cs).2)
  | drive {b : Url} {first : List Char}
      (hBase : b ∈ base)
      (hFirst : first ∈ (segments? b).bind List.head?) :
      RootRead base cs
        (finish "file" (fileAuthority none)
          (readPath .file false ('/' :: first) cs).1.path
          (readPath .file false ('/' :: first) cs).2)
  | host {b : Url} {a : Authority}
      (hBase : b ∈ base)
      (hServer : b.authority = some a) :
      RootRead base cs
        (finish "file" (fileAuthority a.host)
          (readPath .file false [] cs).1.path
          (readPath .file false [] cs).2)

theorem rootRead_fromRoot
    (base : Option Url)
    (cs behind : List Char) :
    RootRead base cs (readFile.fromRoot base cs behind) := by
  rw [readFile.fromRoot]
  dsimp only
  split
  · exact .own
  · split
    · rename_i hDrive
      cases hFirst : (base.bind segments?).bind List.head? with
      | none =>
          rw [hFirst] at hDrive
          cases hDrive
      | some first =>
          rw [Option.bind_assoc] at hFirst
          rcases Option.bind_eq_some_iff.mp hFirst with ⟨b, hBase, hMem⟩
          exact .drive hBase hMem
    · cases hServer : base.bind (·.authority) with
      | none => exact .own
      | some a =>
          rcases Option.bind_eq_some_iff.mp hServer with ⟨b, hBase, hSome⟩
          exact .host hBase hSome

/- What `readFile` answers, alone or in the place of a base. -/
inductive FileRead (base : Option Url) (cs : List Char) : Url → Prop
  | server {rest : List Char} {u : Url}
      (hRest : rest <:+ cs)
      (hRead : readFileServer rest = .ok u) :
      FileRead base cs u
  | root {u : Url}
      (hRoot : RootRead base cs u) :
      FileRead base cs u
  | fresh :
      FileRead base cs
        (finish "file" (fileAuthority none)
          (readPath .file false ['/'] cs).1.path
          (readPath .file false ['/'] cs).2)
  | same {b : Url}
      (hBase : b ∈ base) :
      FileRead base cs b.dropFragment
  | fragment {b : Url} {rest : List Char}
      (hBase : b ∈ base)
      (hRest : rest <:+ cs) :
      FileRead base cs (withFragment b rest)
  | query {b : Url}
      (hBase : b ∈ base) :
      FileRead base cs (finish b.scheme b.authority b.path cs)
  | last {b : Url}
      (hBase : b ∈ base) :
      FileRead base cs
        (finish b.scheme b.authority
          (readPath .file true (dropLast .file b.path) cs).1.path
          (readPath .file true (dropLast .file b.path) cs).2)

theorem fileRead_of_readFile
    {base : Option Url}
    (hRead : readFile base cs = .ok u) :
    FileRead base cs u := by
  rw [readFile.eq_def] at hRead
  split at hRead
  · split at hRead
    · split at hRead
      · split at hRead
        · exact .server
            ((List.suffix_cons _ _).trans (List.suffix_cons _ _)) hRead
        · cases hRead
          exact .root (rootRead_fromRoot _ _ _)
      · cases hRead
        exact .root (rootRead_fromRoot _ _ _)
    · split at hRead
      · cases hRead
        exact .fresh
      · split at hRead
        · cases hRead
          exact .query rfl
        · split at hRead
          · cases hRead
            exact .fragment rfl (List.suffix_cons _ _)
          · split at hRead
            · cases hRead
              exact .fresh
            · rw [Except.ok.injEq] at hRead
              rw [← hRead]
              exact .last rfl
  · cases hRead
    exact .same rfl
  · cases hRead
    exact .fresh

------------------------------------------------------------
-- All URLs
------------------------------------------------------------

/-
  What `readScheme` answers.  Only a base of the same scheme has a
  part in it.
-/
inductive SchemeRead
    (base : Option Url)
    (scheme : String)
    (cs : List Char) : Url → Prop
  | other {u : Url}
      (hKind : Kind.ofScheme scheme = .other)
      (hRead : readOther scheme cs = .ok u) :
      SchemeRead base scheme cs u
  | file {u : Url}
      (hKind : Kind.ofScheme scheme = .file)
      (hRead : readFile (base.filter (·.scheme == "file")) cs = .ok u) :
      SchemeRead base scheme cs u
  | relative {b u : Url}
      (hKind : Kind.ofScheme scheme = .web)
      (hBase : b ∈ base)
      (hSame : b.scheme = scheme)
      (hRead : readRelative b cs = .ok u) :
      SchemeRead base scheme cs u
  | server {u : Url}
      (hKind : Kind.ofScheme scheme = .web)
      (hRead : readServer scheme (cs.dropWhile isAnySlash) = .ok u) :
      SchemeRead base scheme cs u

theorem schemeRead_of_readScheme
    {base : Option Url}
    (hRead : readScheme base scheme cs = .ok u) :
    SchemeRead base scheme cs u := by
  rw [readScheme] at hRead
  split at hRead
  · rename_i hKind
    exact .other hKind hRead
  · rename_i hKind
    exact .file hKind hRead
  · rename_i hKind
    split at hRead
    · rename_i b hb
      rcases Option.mem_filter_iff.mp hb with ⟨hBase, hSame⟩
      split at hRead
      · exact .relative hKind hBase (beq_iff_eq.mp hSame) hRead
      · exact .server hKind hRead
    · exact .server hKind hRead

/- What `read` answers: behind a scheme, or in the place of the base. -/
inductive TextRead (base : Option Url) (cs : List Char) : Url → Prop
  | scheme {scheme : String} {rest : List Char} {u : Url}
      (hTake : takeScheme? (clean cs) = some (scheme, rest))
      (hRead : readScheme base scheme rest = .ok u) :
      TextRead base cs u
  | fragment {b : Url} {rest : List Char}
      (hBase : b ∈ base)
      (hRest : rest <:+ clean cs) :
      TextRead base cs (withFragment b rest)
  | file {b u : Url}
      (hBase : b ∈ base)
      (hFile : b.kind = .file)
      (hRead : readFile (some b) (clean cs) = .ok u) :
      TextRead base cs u
  | relative {b u : Url}
      (hBase : b ∈ base)
      (hFiles : b.kind ≠ .file)
      (hFlat : b.isFlat = false)
      (hRead : readRelative b (clean cs) = .ok u) :
      TextRead base cs u

theorem textRead_of_read
    {base : Option Url}
    (hRead : read base cs = .ok u) :
    TextRead base cs u := by
  rw [Url.read.eq_def] at hRead
  dsimp only at hRead
  split at hRead
  · rename_i hTake
    exact .scheme hTake hRead
  · split at hRead
    · cases hRead
    · split at hRead
      · rename_i rest hText
        cases hRead
        apply TextRead.fragment rfl
        rw [hText]
        exact List.suffix_cons _ _
      · split at hRead
        · cases hRead
        · rename_i hFlat
          split at hRead
          · rename_i hFile
            exact .file rfl (beq_iff_eq.mp hFile) hRead
          · rename_i hFiles
            exact .relative rfl (mt beq_iff_eq.mpr hFiles)
              (eq_false_of_ne_true hFlat) hRead

end Url

end Gleaner
