import Gleaner.Proofs.Url.Parts

/-
  The scheme of a URL stands in front of the text that was read,
  or is the scheme of the URL in whose place the text stands.

  Main declarations:
    * `Url.scheme_of_read`
    * `Url.readScheme_of_ne`
-/

namespace Gleaner

namespace Url

variable {scheme : String}
variable {cs rest : List Char}
variable {c : Char}
variable {base : Option Url}
variable {u : Url}

/- A scheme starts like the text that it was taken from. -/
theorem head?_of_takeScheme?
    (hTake : takeScheme? (c :: cs) = some (scheme, rest)) :
    isSchemeChar c = true ∧ scheme.toList.head? = some c.toLower := by
  rw [takeScheme?] at hTake
  split at hTake
  · rename_i d name _ hName _
    split at hTake
    · rw [List.takeWhile_cons] at hName
      split at hName
      · rename_i hc
        cases hName
        cases hTake
        refine ⟨hc, ?_⟩
        rw [toList_toLower, String.toList_ofList]
        rfl
      · cases hName
    · cases hTake
  · cases hTake

/- Behind two slashes, the scheme is the one in front. -/
theorem scheme_of_readServer
    (hRead : readServer scheme cs = .ok u) :
    u.scheme = scheme := by
  rcases exists_of_readServer hRead with ⟨a, rest, _, rfl⟩
  rfl

theorem scheme_of_readOther
    (hRead : readOther scheme cs = .ok u) :
    u.scheme = scheme := by
  cases otherRead_of_readOther hRead with
  | server _ hRead => exact scheme_of_readServer hRead
  | root _ => rfl
  | flat _ => rfl

/- In the place of another URL, the scheme is the one of that URL. -/
theorem scheme_of_readRelative
    {base : Url}
    (hRead : readRelative base cs = .ok u) :
    u.scheme = base.scheme := by
  cases relativeRead_of_readRelative hRead with
  | same => rfl
  | fragment _ => rfl
  | query => rfl
  | server _ hRead => exact scheme_of_readServer hRead
  | root _ => rfl
  | last _ => rfl

theorem scheme_of_readFileServer
    (hRead : readFileServer cs = .ok u) :
    u.scheme = "file" := by
  cases fileServerRead_of_readFileServer hRead with
  | own _ => rfl
  | host _ _ _ => rfl

theorem RootRead.scheme_eq
    (hRoot : RootRead base cs u) :
    u.scheme = "file" := by
  cases hRoot with
  | own => rfl
  | drive _ _ => rfl
  | host _ _ => rfl

/- Files stay files. -/
theorem scheme_of_readFile
    (hBase : ∀ b ∈ base, b.scheme = "file")
    (hRead : readFile base cs = .ok u) :
    u.scheme = "file" := by
  cases fileRead_of_readFile hRead with
  | server _ hRead => exact scheme_of_readFileServer hRead
  | root hRoot => exact hRoot.scheme_eq
  | fresh => rfl
  | @same b hMem => exact hBase b hMem
  | @fragment b _ hMem _ => exact hBase b hMem
  | @query b hMem => exact hBase b hMem
  | @last b hMem => exact hBase b hMem

theorem scheme_of_readScheme
    (hRead : readScheme base scheme cs = .ok u) :
    u.scheme = scheme := by
  cases schemeRead_of_readScheme hRead with
  | other _ hRead => exact scheme_of_readOther hRead
  | file hKind hRead =>
      rw [eq_file_of_ofScheme hKind]
      refine scheme_of_readFile ?_ hRead
      intro b hb
      exact beq_iff_eq.mp (Option.mem_filter_iff.mp hb).2
  | relative _ _ hSame hRead =>
      exact (scheme_of_readRelative hRead).trans hSame
  | server _ hRead => exact scheme_of_readServer hRead

/- What stands behind a scheme is read. -/
theorem read_of_takeScheme?
    (base : Option Url)
    (hTake : takeScheme? (clean cs) = some (scheme, rest)) :
    read base cs = readScheme base scheme rest := by
  rw [Url.read.eq_def]
  dsimp only
  rw [hTake]

/- The scheme stands in front of the text, or comes from the base. -/
theorem scheme_of_read
    (hRead : read base cs = .ok u) :
    (∃ rest, takeScheme? (clean cs) = some (u.scheme, rest) ∧
        readScheme base u.scheme rest = .ok u) ∨
      ∃ b ∈ base, u.scheme = b.scheme := by
  cases textRead_of_read hRead with
  | scheme hTake hRead =>
      have hSame := scheme_of_readScheme hRead
      rw [← hSame] at hTake hRead
      exact .inl ⟨_, hTake, hRead⟩
  | fragment hBase _ => exact .inr ⟨_, hBase, rfl⟩
  | file hBase hFile hRead =>
      have hSame := eq_file_of_ofScheme hFile
      refine .inr ⟨_, hBase, ?_⟩
      rw [hSame]
      refine scheme_of_readFile ?_ hRead
      rintro b ⟨⟩
      exact hSame
  | relative hBase _ _ hRead =>
      exact .inr ⟨_, hBase, scheme_of_readRelative hRead⟩

/- Behind another scheme, a URL that is not of files has no part. -/
theorem readScheme_of_ne
    {base : Url}
    (hFiles : base.scheme ≠ "file")
    (hOther : base.scheme ≠ scheme)
    (cs : List Char) :
    readScheme (some base) scheme cs = readScheme none scheme cs := by
  have hNone : ∀ {name : String}, base.scheme ≠ name →
      (some base).filter (·.scheme == name) = none := by
    intro name hName
    rw [Option.filter_eq_none_iff]
    rintro b ⟨⟩ hSame
    exact hName (beq_iff_eq.mp hSame)
  rw [readScheme, readScheme, hNone hFiles, hNone hOther]
  rfl

end Url

end Gleaner
