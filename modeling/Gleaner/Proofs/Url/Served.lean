import Gleaner.Proofs.Domain.SmallLetters
import Gleaner.Proofs.Url.Drives

/-
  URLs of nothing but a host and a path, whose texts are read back
  with any host that is read at all, and hosts in which a word in
  front is exchanged for another one.

  Main declarations:
    * `Url.onHost`
    * `Url.IsFixedPath`
    * `Url.parse_onHost`
    * `Url.IsHost.exchange`
-/

namespace Gleaner

namespace Url

variable {kind : Kind}
variable {scheme : String}
variable {host : Host}
variable {path : List Char}

------------------------------------------------------------
-- Paths on Hosts
------------------------------------------------------------

/- A path on a host, at the usual port and for no user. -/
def onHost (scheme : String) (host : Host) (path : List Char) : Url :=
  ⟨scheme, some ⟨"", some host, none⟩, path, none, none⟩

/- A path that is read as it stands behind the host of a URL. -/
structure IsFixedPath (kind : Kind) (path : List Char) : Prop where
  rooted : IsRooted path
  written : ∀ c ∈ path, IsWritten kind c
  level : IsLevel kind true path
  noDrive : isPlainDrive ((path.drop 1).take 2) = false
  single : Text.startsWith ['/', '/'] path = false

/- Whether a path is one is seen from its characters and segments. -/
theorem isFixedPath_iff :
    IsFixedPath kind path ↔
      path.head? = some '/' ∧
        (path.all fun c => !inPath c && (!isSlash kind c || c == '/')) ∧
        (Text.cutAt (· == '/') path).all (!isStep kind true ·) ∧
        isPlainDrive ((path.drop 1).take 2) = false ∧
        Text.startsWith ['/', '/'] path = false := by
  have hChar : ∀ c, (!inPath c && (!isSlash kind c || c == '/')) = true ↔
      IsWritten kind c := by
    intro c
    cases h : isSlash kind c <;> simp [IsWritten, h]
  simp only [List.all_eq_true, hChar, Bool.not_eq_true']
  constructor
  · rintro ⟨hRooted, hWritten, hLevel, hDrive, hSingle⟩
    exact ⟨hRooted, hWritten, hLevel, hDrive, hSingle⟩
  · rintro ⟨hRooted, hWritten, hLevel, hDrive, hSingle⟩
    exact ⟨hRooted, hWritten, hLevel, hDrive, hSingle⟩

instance : Decidable (IsFixedPath kind path) :=
  decidable_of_iff _ isFixedPath_iff.symm

/- Its characters stand in a path. -/
theorem IsFixedPath.isPath
    (hPath : IsFixedPath kind path) :
    IsPath path := by
  intro c hc
  have hOut := (hPath.written c hc).1
  rw [inPath, inFragment, Bool.or_eq_false_iff, Bool.or_eq_false_iff] at hOut
  rw [isPathChar, hOut.1.1, Bool.not_false, Bool.true_and, bne_iff_ne]
  rintro rfl
  exact absurd hOut.2 (by decide)

theorem toList_text_onHost
    (scheme : String)
    (host : Host)
    (path : List Char) :
    (onHost scheme host path).text.toList =
      scheme.toList ++ (':' :: '/' :: '/' :: (host.write ++ path)) := by
  rw [text, String.toList_ofList, write_eq_behind, behind_of_authority rfl]
  simp [onHost, Authority.server, Authority.seat, ending]

/- The parts of such a URL hold what may stand in them. -/
theorem isSound_onHost
    (hScheme : IsScheme scheme)
    (hHost : IsHost (.ofScheme scheme) host)
    (hPath : IsFixedPath (.ofScheme scheme) path) :
    IsSound true (onHost scheme host path) := by
  refine ⟨⟨hScheme, ?_, fun _ => rfl, fun _ => ⟨_, rfl, rfl⟩, hPath.isPath,
    fun _ => hPath.rooted, fun _ => .inr hPath.rooted⟩, nofun, nofun⟩
  rintro a ⟨⟩
  refine ⟨nofun, ?_, nofun, fun _ => ⟨rfl, rfl⟩⟩
  rintro h ⟨⟩
  exact hHost

/- They are as reading leaves them. -/
theorem isSettled_onHost
    (hAway : Kind.ofScheme scheme = .file → host ≠ .name "localhost")
    (hPath : IsFixedPath (.ofScheme scheme) path) :
    IsSettled (onHost scheme host path) := by
  have hNobody : readUser "".toList = "" := by decide
  refine ⟨?_, fun _ => ⟨hPath.written, .inl hPath.level.of_hosted,
    fun _ => hPath.single⟩, nofun, nofun, nofun⟩
  rintro a ⟨⟩
  exact ⟨hNobody, nofun, fun hFile hSame =>
    hAway hFile (Option.some.inj hSame)⟩

/- A path on a host is read as it is, unless the host is this computer. -/
theorem parse_onHost
    (hScheme : IsScheme scheme)
    (hHost : IsHost (.ofScheme scheme) host)
    (hAway : Kind.ofScheme scheme = .file → host ≠ .name "localhost")
    (hPath : IsFixedPath (.ofScheme scheme) path) :
    parse (onHost scheme host path).text = .ok (onHost scheme host path) := by
  have hSound := isSound_onHost hScheme hHost hPath
  have hSettled := isSettled_onHost hAway hPath
  by_cases hKind : Kind.ofScheme scheme = .file
  · have hFile := eq_file_of_ofScheme hKind
    subst hFile
    have hEnds : EndsServer .file (path ++ []) :=
      endsServer_path .file (.inr hPath.rooted) nofun
    have hStart :
        readPathStart .file true (path ++ []) = (⟨path, true⟩, []) :=
      readPathStart_of_isLevel hPath.level hPath.written (.inl hPath.rooted)
        (fun _ => ⟨hPath.noDrive, hPath.single⟩) nofun
    rw [hSettled.parse_file hSound rfl rfl]
    show readFileServer (host.write ++ (path ++ [])) = _
    rw [IsHost.readFileServer_host hHost hEnds, if_neg (hAway rfl), hStart]
    rfl
  · exact hSettled.parse_text hSound hKind

------------------------------------------------------------
-- Exchanged Words
------------------------------------------------------------

variable {a b rest : List Char}

/- Small letters stand in the names of hosts of any kind. -/
theorem isBadInName_of_isSmall
    {c : Char}
    (hc : Domain.IsSmall c) :
    isBadInName c = false ∧ isControl c = false := by
  have hPlain := (Domain.isNameChar_of_isSmall hc).1.plain
  exact Text.forall_plain
    (P := fun c => Domain.IsSmall c →
      isBadInName c = false ∧ isControl c = false)
    (by decide) hPlain hc

/-
  The word that a host starts with may be exchanged for another one
  of the same length.
-/
theorem IsHost.exchange
    (hHost : IsHost kind host)
    (ha : Domain.IsWord a)
    (hb : Domain.IsWord b)
    (hLength : a.length = b.length)
    (hWrite : host.write = a ++ rest) :
    IsHost kind (.name (String.ofList (b ++ rest))) := by
  rcases ha.exists_cons with ⟨c, cs, rfl, hSmall⟩
  rcases hb.exists_cons with ⟨d, ds, rfl, hOther⟩
  rw [List.cons_append] at hWrite
  cases hHost with
  | domain hSpecial hPlain _ hNumber =>
      rw [Host.write, String.toList_ofList] at hWrite
      subst hWrite
      exact .domain hSpecial (Domain.toPlain?_exchange ha hb hLength hPlain)
        (List.cons_ne_nil _ _)
        (Address4.endsInNumber_exchange ha.ne_dot hb.ne_dot
          (List.cons_ne_nil c cs)
          ⟨d, ds, rfl, Domain.isDigit_of_isSmall hOther⟩ hNumber)
  | name hOtherKind _ hFits =>
      rw [Host.write, String.toList_ofList] at hWrite
      subst hWrite
      refine .name hOtherKind (List.cons_ne_nil _ _) ?_
      intro e he
      rcases List.mem_append.mp he with hNew | hOld
      · exact isBadInName_of_isSmall (hb.small e hNew)
      · exact hFits e (List.mem_append_right (c :: cs) hOld)
  | @four n =>
      -- an address starts with a digit or a bracket
      have hMem : c ∈ Address4.write n := by
        rw [Host.write] at hWrite
        rw [hWrite]
        exact List.mem_cons_self
      rcases Address4.mem_write_cases hMem with hDigit | rfl
      · rw [Domain.isDigit_of_isSmall hSmall] at hDigit
        cases hDigit
      · exact absurd hSmall (by decide)
  | six =>
      rw [Host.write, List.cons_append, List.cons.injEq] at hWrite
      rw [← hWrite.1] at hSmall
      exact absurd hSmall (by decide)

end Url

end Gleaner
