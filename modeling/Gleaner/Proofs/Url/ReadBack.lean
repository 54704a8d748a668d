import Gleaner.Proofs.Url.Parts

/-
  The text of a URL that was read can be read again.

  Main declarations:
    * `Url.cleanEnd`
    * `Url.Authority.IsSound.takeAuthority_server`
    * `Url.exists_parse_server`
    * `Url.ending`
    * `Url.behind`
    * `Url.IsSound.exists_parse_text`
-/

namespace Gleaner

namespace Url

------------------------------------------------------------
-- Clean Texts
------------------------------------------------------------

/- A character that stays inside a text. -/
def isInner (c : Char) : Bool :=
  !(c == '\t' || c == '\n' || c == '\r')

/- The end of a text without low characters, tabs and line ends. -/
def cleanEnd (cs : List Char) : List Char :=
  (cs.reverse.dropWhile isLow).reverse.filter isInner

variable {front rest : List Char}
variable {c : Char}

/- Characters that do not stay inside are low, and controls. -/
theorem isLow_of_not_isInner
    (hc : isInner c = false) :
    isLow c = true ∧ isControl c = true := by
  simp only [isInner, Bool.not_eq_false', Bool.or_eq_true,
    beq_iff_eq] at hc
  rcases hc with (rfl | rfl) | rfl
  · decide
  · decide
  · decide

/- A start without low characters is kept. -/
theorem cleanEnd_append
    (rest : List Char)
    (hFront : ∀ c ∈ front, isLow c = false) :
    cleanEnd (front ++ rest) = front ++ cleanEnd rest := by
  have hTrim :
      (front ++ rest).reverse.dropWhile isLow =
        rest.reverse.dropWhile isLow ++ front.reverse := by
    rw [List.reverse_append, List.dropWhile_append]
    split
    · rename_i hLow
      rw [List.isEmpty_iff.mp hLow, List.nil_append]
      cases hBack : front.reverse with
      | nil => rfl
      | cons d back =>
          have hd : d ∈ front := by
            rw [← List.mem_reverse, hBack]
            exact List.mem_cons_self
          rw [List.dropWhile_cons_of_neg]
          rw [hFront d hd]
          decide
    · rfl
  have hKept : front.filter isInner = front :=
    List.filter_eq_self.mpr fun c hc => by
      by_contra hOuter
      have hLow := (isLow_of_not_isInner (eq_false_of_ne_true hOuter)).1
      rw [hFront c hc] at hLow
      cases hLow
  rw [cleanEnd, hTrim, List.reverse_append, List.reverse_reverse,
    List.filter_append, hKept]
  rfl

/- A character that is not low is kept in front. -/
theorem cleanEnd_cons
    (rest : List Char)
    (hc : isLow c = false) :
    cleanEnd (c :: rest) = c :: cleanEnd rest := by
  have hOne : ∀ d ∈ [c], isLow d = false := by
    intro d hd
    rwa [List.mem_singleton.mp hd]
  exact cleanEnd_append rest hOne

/- A text that does not start with a low character keeps its start. -/
theorem clean_eq_cleanEnd
    {cs : List Char}
    (hStart : ∀ c ∈ cs.head?, isLow c = false) :
    clean cs = cleanEnd cs := by
  have hDrop : cs.dropWhile isLow = cs := by
    cases cs with
    | nil => rfl
    | cons c cs =>
        rw [List.dropWhile_cons_of_neg]
        rw [hStart c rfl]
        decide
  rw [clean, hDrop]
  rfl

/- A character that is no control stays in front, or all is low. -/
theorem cleanEnd_cons_cases
    (rest : List Char)
    (hc : isControl c = false) :
    cleanEnd (c :: rest) = [] ∨
      ∃ more, cleanEnd (c :: rest) = c :: more := by
  have hKept : isInner c = true := by
    by_contra hOuter
    have hControl :=
      (isLow_of_not_isInner (eq_false_of_ne_true hOuter)).2
    rw [hc] at hControl
    cases hControl
  rw [cleanEnd, List.reverse_cons, List.dropWhile_append]
  split
  · by_cases hLow : isLow c = true
    · left
      rw [List.dropWhile_cons_of_pos hLow]
      rfl
    · right
      rw [List.dropWhile_cons_of_neg hLow]
      exact ⟨[], by rw [List.reverse_singleton,
        List.filter_cons_of_pos hKept, List.filter_nil]⟩
  · right
    rw [List.reverse_append, List.reverse_singleton,
      List.singleton_append, List.filter_cons_of_pos hKept]
    exact ⟨_, rfl⟩

------------------------------------------------------------
-- Schemes
------------------------------------------------------------

variable {scheme : String}

/- Characters of schemes are not low. -/
theorem isLow_of_isSchemeChar
    (hc : isSchemeChar c = true) :
    isLow c = false :=
  Text.forall_plain
    (P := fun c => isSchemeChar c = true → isLow c = false)
    (by decide) (isPlain_of_isSchemeChar hc) hc

/- A written scheme is taken. -/
theorem IsScheme.takeScheme?_append
    (hScheme : IsScheme scheme)
    (rest : List Char) :
    takeScheme? (scheme.toList ++ ':' :: rest) = some (scheme, rest) := by
  rcases hScheme.starts with ⟨c, name, hText, hLetter⟩
  have hTake :
      (scheme.toList ++ ':' :: rest).takeWhile isSchemeChar =
        c :: name := by
    rw [List.takeWhile_append_of_pos hScheme.chars,
      List.takeWhile_cons_of_neg (by decide), List.append_nil, hText]
  have hDrop :
      (scheme.toList ++ ':' :: rest).dropWhile isSchemeChar =
        ':' :: rest := by
    rw [List.dropWhile_append_of_pos hScheme.chars,
      List.dropWhile_cons_of_neg (by decide)]
  have hSmall : (String.ofList (c :: name)).toLower = scheme := by
    rw [← hText, String.ofList_toList, hScheme.small]
  rw [takeScheme?, hTake, hDrop]
  simp only
  rw [if_pos hLetter, hSmall]

/- A text behind a written scheme is read as it is cleaned. -/
theorem IsScheme.parse_append
    (hScheme : IsScheme scheme)
    (behind : List Char) :
    parse (String.ofList (scheme.toList ++ ':' :: behind)) =
      readScheme none scheme (cleanEnd behind) := by
  have hFront : ∀ c ∈ scheme.toList, isLow c = false :=
    fun c hc => isLow_of_isSchemeChar (hScheme.chars c hc)
  have hClean :
      clean (scheme.toList ++ ':' :: behind) =
        scheme.toList ++ ':' :: cleanEnd behind := by
    rw [clean_eq_cleanEnd, cleanEnd_append _ hFront,
      cleanEnd_cons _ (by decide)]
    intro c hc
    rcases hScheme.starts with ⟨d, name, hText, _⟩
    apply hFront
    rw [hText] at hc ⊢
    cases hc
    exact List.mem_cons_self
  rw [parse, String.toList_ofList, Url.read.eq_def, hClean]
  dsimp only
  rw [hScheme.takeScheme?_append]

------------------------------------------------------------
-- Authorities
------------------------------------------------------------

/- The host and the port of an authority. -/
def Authority.seat (a : Authority) : List Char :=
  a.host.elim [] Host.write ++
    a.port.elim [] fun p => ':' :: Text.showNat p

/- The text of an authority behind the two slashes. -/
def Authority.server (a : Authority) : List Char :=
  (if a.user.isEmpty then [] else a.user.toList ++ ['@']) ++ a.seat

variable {a : Authority}

theorem Authority.write_eq_server (a : Authority) :
    a.write = '/' :: '/' :: a.server := by
  simp [write, server, seat]

/- The host and the port hold no `@`. -/
theorem Authority.IsSound.isServerChar_of_mem_seat
    (hSound : a.IsSound scheme)
    (hc : c ∈ a.seat) :
    isServerChar c = true := by
  rcases List.mem_append.mp hc with hHost | hPort
  · cases h : a.host with
    | none =>
        rw [h] at hHost
        cases hHost
    | some host =>
        rw [h] at hHost
        exact (hSound.host host h).isServerChar_of_mem_write hHost
  · cases h : a.port with
    | none =>
        rw [h] at hPort
        cases hPort
    | some p =>
        rw [h] at hPort
        rcases List.mem_cons.mp hPort with rfl | hDigit
        · decide
        · have hChar :=
            isHostChar_of_isDigit (Text.isDigit_of_mem_showNat hDigit)
          simp only [isHostChar, Bool.and_eq_true] at hChar
          exact hChar.1.1.1

/- The text ends an authority: it is empty, or starts like an end. -/
def EndsServer (kind : Kind) (cs : List Char) : Prop :=
  ∀ c ∈ cs.head?, endsAuthority kind c = true

/- Such a text ends a host, too. -/
theorem EndsServer.endsHost
    {kind : Kind}
    (hEnd : EndsServer kind rest) :
    EndsHost kind rest :=
  fun c hc => .inr (hEnd c hc)

/- The characters of an authority do not end it. -/
theorem Authority.IsSound.endsAuthority_of_mem_server
    (kind : Kind)
    (hSound : a.IsSound scheme)
    (hc : c ∈ a.server) :
    endsAuthority kind c = false := by
  rcases List.mem_append.mp hc with hUser | hSeat
  · split at hUser
    · cases hUser
    · rcases List.mem_append.mp hUser with hName | hAt
      · exact endsAuthority_of_isServerChar kind (hSound.user c hName)
      · rw [List.mem_singleton.mp hAt]
        cases kind <;> decide
  · exact endsAuthority_of_isServerChar kind
      (hSound.isServerChar_of_mem_seat hSeat)

/- The user of an authority is found in front of its host. -/
theorem Authority.IsSound.userText?_server
    (kind : Kind)
    (hSound : a.IsSound scheme)
    (hEnd : EndsServer kind rest) :
    userText? kind (a.server ++ rest) =
      if a.user.isEmpty then none else some a.user.toList := by
  have hStop : ∀ c ∈ rest.head?, (!endsAuthority kind c) = false := by
    intro c hc
    rw [hEnd c hc]
    rfl
  have hInside : ∀ c ∈ a.server, (!endsAuthority kind c) = true := by
    intro c hc
    rw [hSound.endsAuthority_of_mem_server kind hc]
    rfl
  have hSeat : ∀ c ∈ a.seat.reverse, (c != '@') = true := by
    intro c hc
    rw [bne_iff_ne]
    rintro rfl
    exact absurd
      (hSound.isServerChar_of_mem_seat (List.mem_reverse.mp hc))
      (by decide)
  rw [userText?, Text.takeWhile_append_of_stop hInside hStop, server,
    List.reverse_append,
    List.dropWhile_append_of_pos hSeat]
  cases a.user.isEmpty with
  | true => rfl
  | false => simp

/- The character ends a port. -/
def endsPort (c : Char) : Bool :=
  isAnySlash c || c == '?' || c == '#'

/- What ends an authority is one of four characters. -/
theorem endsAuthority_cases
    {kind : Kind}
    (hc : endsAuthority kind c = true) :
    c = '/' ∨ c = '\\' ∨ c = '?' ∨ c = '#' := by
  simp only [endsAuthority, isSlash, Bool.or_eq_true,
    Bool.and_eq_true, beq_iff_eq] at hc
  rcases hc with ((hc | ⟨hc, _⟩) | hc) | hc
  · exact .inl hc
  · exact .inr (.inl hc)
  · exact .inr (.inr (.inl hc))
  · exact .inr (.inr (.inr hc))

/- What ends an authority ends a port. -/
theorem endsPort_of_endsAuthority
    {kind : Kind}
    (hc : endsAuthority kind c = true) :
    endsPort c = true := by
  rcases endsAuthority_cases hc with rfl | rfl | rfl | rfl <;> decide

/- The port behind a colon, and what follows it. -/
theorem takePort_colon
    (scheme : String)
    (cs : List Char) :
    takePort scheme (':' :: cs) =
      (readPort scheme (cs.takeWhile (!endsPort ·))).map
        (·, cs.dropWhile (!endsPort ·)) := by
  show (readPort scheme (cs.takeWhile (!endsPort ·))).bind
      (fun port => pure (port, cs.dropWhile (!endsPort ·))) = _
  cases readPort scheme (cs.takeWhile (!endsPort ·)) with
  | error e => rfl
  | ok port => rfl

/- A port is read, unless it is the usual one. -/
theorem readPort_showNat
    {p : Nat}
    (scheme : String)
    (hPort : p ≤ 65535) :
    readPort scheme (Text.showNat p) =
      .ok ((some p).filter (usualPort? scheme != some ·)) := by
  have hDigits : (Text.showNat p).all Text.isDigit = true :=
    List.all_eq_true.mpr fun c => Text.isDigit_of_mem_showNat
  rw [readPort, hDigits, Text.ofDigits_showNat,
    if_neg (by simpa using hPort)]
  by_cases hUsual : usualPort? scheme = some p
  · simp [hUsual, Option.filter_some]
  · simp [hUsual, Text.showNat_ne_nil, Option.filter_some]

/- The port of an authority is taken. -/
theorem takePort_port
    {port : Option Nat}
    (hPort : ∀ p ∈ port, p ≤ 65535)
    (hEnd : EndsServer (.ofScheme scheme) rest) :
    takePort scheme
        ((port.elim [] fun p => ':' :: Text.showNat p) ++ rest) =
      .ok (port.filter (usualPort? scheme != some ·), rest) := by
  cases port with
  | none =>
      rw [Option.elim_none, List.nil_append, takePort.eq_def]
      split
      · exact absurd (hEnd ':' rfl)
          (by cases Kind.ofScheme scheme <;> decide)
      · rfl
  | some p =>
      have hInside :
          ∀ c ∈ Text.showNat p, (!endsPort c) = true := by
        intro c hc
        have hDigit := Text.isDigit_of_mem_showNat hc
        exact Text.forall_hexDigit (P := fun c => (!endsPort c) = true)
          (by decide) (Text.isHexDigit_of_isDigit hDigit)
      have hOutside : ∀ c ∈ rest.head?, (!endsPort c) = false := by
        intro c hc
        rw [endsPort_of_endsAuthority (hEnd c hc)]
        rfl
      rw [Option.elim_some, List.cons_append, takePort_colon,
        Text.takeWhile_append_of_stop hInside hOutside,
        Text.dropWhile_append_of_stop hInside hOutside,
        readPort_showNat scheme (hPort p rfl)]
      rfl

/- A written host is found, if there is one. -/
theorem Authority.IsSound.splitHost_seat
    (hSound : a.IsSound scheme)
    (hEnd : EndsServer (.ofScheme scheme) rest) :
    splitHost (.ofScheme scheme) false (a.seat ++ rest) =
      (a.host.elim [] Host.write,
        (a.port.elim [] fun p => ':' :: Text.showNat p) ++ rest) := by
  rw [seat, List.append_assoc]
  have hBehind :
      EndsHost (.ofScheme scheme)
        ((a.port.elim [] fun p => ':' :: Text.showNat p) ++ rest) := by
    cases a.port with
    | none => exact hEnd.endsHost
    | some p =>
        rintro c ⟨⟩
        exact .inl rfl
  cases hHost : a.host with
  | none => exact splitHost_of_endsHost hBehind
  | some host => exact (hSound.host host hHost).splitHost_write hBehind

/- A host is read back, if there is one. -/
theorem Authority.IsSound.readHost_host
    (hSound : a.IsSound scheme)
    (hHost : a.host.isSome = true ∨ Kind.ofScheme scheme = .other) :
    readHost (.ofScheme scheme) (a.host.elim [] Host.write) =
      .ok a.host := by
  cases h : a.host with
  | some host => exact (hSound.host host h).readHost_write
  | none =>
      rw [h] at hHost
      rw [hHost.resolve_left (by decide)]
      rfl

/- The user of an authority is passed over. -/
theorem Authority.drop_server
    (a : Authority)
    (rest : List Char) :
    (a.server ++ rest).drop
        ((if a.user.isEmpty then none else some a.user.toList).elim 0
          (·.length + 1)) =
      a.seat ++ rest := by
  rw [server]
  cases a.user.isEmpty with
  | true => rfl
  | false => simp

/-
  The authority of a written URL is taken.  Its user is read once
  more, and the usual port is left out.
-/
theorem Authority.IsSound.takeAuthority_server
    (hSound : a.IsSound scheme)
    (hHost : a.host.isSome = true ∨ Kind.ofScheme scheme = .other)
    (hEnd : EndsServer (.ofScheme scheme) rest) :
    takeAuthority scheme (a.server ++ rest) =
      .ok (⟨readUser a.user.toList, a.host,
        a.port.filter (usualPort? scheme != some ·)⟩, rest) := by
  have hNamed :
      ((if a.user.isEmpty then none else some a.user.toList) ==
        some []) = false := by
    cases hUser : a.user.isEmpty with
    | true => rfl
    | false =>
        rw [beq_eq_false_iff_ne]
        intro hNone
        simp at hNone
        simp [hNone] at hUser
  have hText :
      (if a.user.isEmpty then none else some a.user.toList).getD [] =
        a.user.toList := by
    split
    · rename_i hUser
      rw [String.isEmpty_iff.mp hUser]
      rfl
    · rfl
  rw [takeAuthority, hSound.userText?_server _ hEnd]
  simp only [bind, Except.bind, pure, Except.pure, throw, throwThe,
    MonadExceptOf.throw]
  rw [drop_server, hNamed, Bool.false_and, if_neg Bool.false_ne_true,
    hSound.splitHost_seat hEnd, hSound.readHost_host hHost, hText]
  dsimp only
  rw [takePort_port hSound.port hEnd]
  dsimp only
  cases h : a.host with
  | some host => rfl
  | none =>
      -- without a host there is neither a user nor a port
      rcases hSound.alone (.inl h) with ⟨hUser, hNoPort⟩
      have hColon : (rest.head? == some ':') = false := by
        rw [beq_eq_false_iff_ne]
        intro hHead
        exact absurd (hEnd ':' hHead)
          (by cases Kind.ofScheme scheme <;> decide)
      rw [hNoPort, hUser, Option.elim_none, List.nil_append, hColon]
      rfl

/- What ends an authority is not low. -/
theorem isLow_of_endsAuthority
    {kind : Kind}
    (hc : endsAuthority kind c = true) :
    isLow c = false := by
  rcases endsAuthority_cases hc with rfl | rfl | rfl | rfl <;> decide

/- What ends an authority stays in front of a cleaned text. -/
theorem EndsServer.cleanEnd
    {kind : Kind}
    (hEnd : EndsServer kind rest) :
    EndsServer kind (cleanEnd rest) := by
  cases rest with
  | nil => rintro c ⟨⟩
  | cons c rest =>
      have hc := hEnd c rfl
      rw [cleanEnd_cons rest (isLow_of_endsAuthority hc)]
      rintro d ⟨⟩
      exact hc

/- The characters of an authority are not low. -/
theorem Authority.IsSound.isLow_of_mem_server
    (hSound : a.IsSound scheme)
    (hc : c ∈ a.server) :
    isLow c = false := by
  have hChar : ∀ {d : Char}, isServerChar d = true → isLow d = false := by
    intro d hd
    simp only [isServerChar, Bool.not_eq_true', Bool.or_eq_false_iff] at hd
    exact hd.1.1.1.1
  rcases List.mem_append.mp hc with hUser | hSeat
  · split at hUser
    · cases hUser
    · rcases List.mem_append.mp hUser with hName | hAt
      · exact hChar (hSound.user c hName)
      · rw [List.mem_singleton.mp hAt]
        decide
  · exact hChar (hSound.isServerChar_of_mem_seat hSeat)

------------------------------------------------------------
-- URLs
------------------------------------------------------------

/- What stands behind the two slashes of a URL is read. -/
theorem Authority.IsSound.exists_readServer
    (hSound : a.IsSound scheme)
    (hHost : a.host.isSome = true ∨ Kind.ofScheme scheme = .other)
    (hEnd : EndsServer (.ofScheme scheme) rest) :
    ∃ v, readServer scheme (a.server ++ rest) = .ok v ∧
      v.authority.bind (·.host) = a.host := by
  rw [readServer, hSound.takeAuthority_server hHost hEnd]
  exact ⟨_, rfl, rfl⟩

/- The domain of a written host of files is read. -/
theorem IsHost.readDomain_host
    {host : Host}
    (hHost : IsHost .file host) :
    readDomain host.write = .ok host := by
  have hText : host.write.isEmpty = false := by
    simpa using hHost.write_ne_nil
  have hRead := hHost.readHost_write
  rw [readHost, hText, if_neg Bool.false_ne_true,
    if_pos (show Kind.file.isSpecial = true from rfl)] at hRead
  cases hDomain : readDomain host.write with
  | error e =>
      rw [hDomain] at hRead
      cases hRead
  | ok found =>
      rw [hDomain] at hRead
      cases hRead
      rfl

/- No host is written like a drive. -/
theorem IsHost.isDrive_write
    {host : Host}
    (hHost : IsHost .file host) :
    isDrive host.write = false := by
  rw [isDrive.eq_def]
  split
  · rename_i a b hText
    rw [Bool.and_eq_false_iff]
    have hb : b ∈ host.write := by simp [hText]
    cases hHost with
    | domain _ hPlain _ _ =>
        right
        rw [Host.write, String.toList_ofList] at hb
        have hAllowed := (Domain.isNameChar_of_mem_toPlain? hPlain hb).allowed
        rw [Bool.or_eq_false_iff, beq_eq_false_iff_ne, beq_eq_false_iff_ne]
        constructor
        · rintro rfl
          exact absurd hAllowed (by decide)
        · rintro rfl
          exact absurd hAllowed (by decide)
    | name hOther _ _ => cases hOther
    | four =>
        right
        rcases Address4.mem_write_cases hb with hDigit | rfl
        · have hChar := isHostChar_of_isDigit hDigit
          rw [Bool.or_eq_false_iff, beq_eq_false_iff_ne, beq_eq_false_iff_ne]
          constructor
          · rintro rfl
            cases hChar
          · rintro rfl
            cases hDigit
        · decide
    | six =>
        left
        rw [Host.write, List.cons_append, List.cons.injEq] at hText
        rw [← hText.1]
        decide
  · rfl

/- Behind no host, files have a path only. -/
theorem readFileServer_of_endsServer
    (hEnd : EndsServer .file rest) :
    readFileServer rest =
      .ok (finish "file" (fileAuthority none)
        (readPath .file false ['/'] rest).1.path
        (readPath .file false ['/'] rest).2) := by
  have hStop : ∀ c ∈ rest.head?, (!endsPort c) = false := by
    intro c hc
    rw [endsPort_of_endsAuthority (hEnd c hc)]
    rfl
  have hNone : ∀ c ∈ ([] : List Char), (!endsPort c) = true := nofun
  have hName :
      rest.takeWhile
        (fun c => !(isAnySlash c || c == '?' || c == '#')) = [] :=
    Text.takeWhile_append_of_stop hNone hStop
  have hRest :
      rest.dropWhile
        (fun c => !(isAnySlash c || c == '?' || c == '#')) = rest :=
    Text.dropWhile_append_of_stop hNone hStop
  rw [readFileServer]
  simp only [bind, Except.bind, pure, Except.pure]
  rw [hName, hRest]
  rfl

/-
  A host in front of files is read, unless its name stands for
  this computer.  A drive in the path takes it away.
-/
theorem IsHost.readFileServer_host
    {host : Host}
    (hHost : IsHost .file host)
    (hEnd : EndsServer .file rest) :
    readFileServer (host.write ++ rest) =
      .ok (if host = .name "localhost" then
          finish "file" (fileAuthority none)
            (readPath .file false ['/'] rest).1.path
            (readPath .file false ['/'] rest).2
        else
          finish "file"
            (fileAuthority
              (if (readPathStart .file true rest).1.keepsHost then some host
                else none))
            (readPathStart .file true rest).1.path
            (readPathStart .file true rest).2) := by
  have hInside : ∀ c ∈ host.write, (!endsPort c) = true := by
    intro c hc
    have hChar := hHost.isServerChar_of_mem_write hc
    simp only [isServerChar, Bool.not_eq_true', Bool.or_eq_false_iff] at hChar
    simp [endsPort, hChar]
  have hStop : ∀ c ∈ rest.head?, (!endsPort c) = false := by
    intro c hc
    rw [endsPort_of_endsAuthority (hEnd c hc)]
    rfl
  have hName :
      (host.write ++ rest).takeWhile
        (fun c => !(isAnySlash c || c == '?' || c == '#')) = host.write :=
    Text.takeWhile_append_of_stop hInside hStop
  have hRest :
      (host.write ++ rest).dropWhile
        (fun c => !(isAnySlash c || c == '?' || c == '#')) = rest :=
    Text.dropWhile_append_of_stop hInside hStop
  have hSome : host.write.isEmpty = false := by
    simpa using hHost.write_ne_nil
  rw [readFileServer]
  simp only [bind, Except.bind, pure, Except.pure]
  rw [hName, hRest, hSome, hHost.isDrive_write, Bool.false_or,
    if_neg Bool.false_ne_true, hHost.readDomain_host]
  dsimp only
  split
  · rfl
  · rfl

/- What stands behind the two slashes of a URL of files is read. -/
theorem Authority.IsSound.exists_readFileServer
    (hSound : a.IsSound "file")
    (hEnd : EndsServer .file rest) :
    ∃ v, readFileServer (a.server ++ rest) = .ok v := by
  rcases hSound.alone (.inr (by decide)) with ⟨hUser, hPort⟩
  have hServer : a.server = a.host.elim [] Host.write := by
    rw [server, seat, hUser, hPort]
    simp
  rw [hServer]
  cases hHost : a.host with
  | none => exact ⟨_, readFileServer_of_endsServer hEnd⟩
  | some host =>
      exact ⟨_, (hSound.host host hHost).readFileServer_host hEnd⟩

/- An authority with a host does not start with a slash. -/
theorem Authority.IsSound.isAnySlash_of_head?_server
    (hSound : a.IsSound scheme)
    (hHost : a.host.isSome = true)
    (hc : c ∈ (a.server ++ rest).head?) :
    isAnySlash c = false := by
  rcases Option.isSome_iff_exists.mp hHost with ⟨host, hSome⟩
  have hWrite : host.write ≠ [] :=
    (hSound.host host hSome).write_ne_nil
  have hServer : a.server ≠ [] := by
    simp [server, seat, hSome, hWrite]
  have hMem : c ∈ a.server := by
    rw [List.head?_append_of_ne_nil _ hServer] at hc
    exact List.mem_of_mem_head? hc
  have hEnds := hSound.endsAuthority_of_mem_server .web hMem
  simp only [endsAuthority, isSlash, Bool.or_eq_false_iff] at hEnds
  have hBack := hEnds.1.1.2
  rw [Bool.and_eq_false_iff] at hBack
  rw [isAnySlash, hEnds.1.1.1, hBack.resolve_right (by decide)]
  rfl

/-
  A URL with an authority is read, whatever its path is.  Its
  host is the one that was written; that of files may be left
  out.
-/
theorem exists_parse_server
    (hScheme : IsScheme scheme)
    (hSound : a.IsSound scheme)
    (hHost : Kind.ofScheme scheme = .web → a.host.isSome = true)
    (hEnd : EndsServer (.ofScheme scheme) rest) :
    ∃ v,
      parse (String.ofList
        (scheme.toList ++ ':' :: '/' :: '/' :: (a.server ++ rest))) =
        .ok v ∧
      (Kind.ofScheme scheme ≠ .file →
        v.authority.bind (·.host) = a.host) := by
  have hClean :
      cleanEnd ('/' :: '/' :: (a.server ++ rest)) =
        '/' :: '/' :: (a.server ++ cleanEnd rest) := by
    rw [cleanEnd_cons _ (by decide), cleanEnd_cons _ (by decide),
      cleanEnd_append rest fun c => hSound.isLow_of_mem_server]
  rw [hScheme.parse_append, hClean, readScheme]
  have hStop := hEnd.cleanEnd
  split
  · rename_i hOther
    rcases hSound.exists_readServer (.inr hOther) hStop with
      ⟨v, hRead, hSame⟩
    exact ⟨v, hRead, fun _ => hSame⟩
  · rename_i hFile
    have hName := eq_file_of_ofScheme hFile
    subst hName
    rcases hSound.exists_readFileServer hStop with ⟨v, hRead⟩
    exact ⟨v, hRead, fun hOther => absurd hFile hOther⟩
  · rename_i hWeb
    have hSome := hHost hWeb
    -- the two slashes are all that stand in front of the authority
    have hDrop :
        (['/', '/'] ++ (a.server ++ cleanEnd rest)).dropWhile isAnySlash =
          a.server ++ cleanEnd rest := by
      apply Text.dropWhile_append_of_stop (List.all_eq_true.mp rfl)
      intro c hc
      exact hSound.isAnySlash_of_head?_server hSome hc
    show ∃ v,
      readServer scheme
        ((['/', '/'] ++ (a.server ++ cleanEnd rest)).dropWhile
          isAnySlash) = .ok v ∧ _
    rw [hDrop]
    rcases hSound.exists_readServer (.inl hSome) hStop with
      ⟨v, hRead, hSame⟩
    exact ⟨v, hRead, fun _ => hSame⟩

variable {asked : Bool}
variable {u : Url}

/- The query and the fragment as they stand in a URL. -/
def ending (u : Url) : List Char :=
  u.query.elim [] ('?' :: ·) ++ u.fragment.elim [] ('#' :: ·)

/- What stands behind the scheme of a URL and its colon. -/
def behind (u : Url) : List Char :=
  (match u.authority with
    | some a => a.write
    | none => if Text.startsWith ['/', '/'] u.path then ['/', '.'] else []) ++
    (u.path ++ u.ending)

theorem write_eq_behind (u : Url) :
    u.write = u.scheme.toList ++ ':' :: u.behind := by
  cases h : u.authority with
  | none => simp [write, front, behind, ending, h]
  | some a => simp [write, front, behind, ending, h]

theorem behind_of_authority (hServer : u.authority = some a) :
    u.behind = '/' :: '/' :: (a.server ++ (u.path ++ u.ending)) := by
  rw [behind, hServer]
  simp [a.write_eq_server]

/- The ending of a URL starts with its query or its fragment. -/
theorem head?_ending (u : Url) :
    ∀ c ∈ u.ending.head?, c = '?' ∨ c = '#' := by
  intro c hc
  rw [ending] at hc
  cases hQuery : u.query with
  | some q =>
      rw [hQuery] at hc
      cases hc
      exact .inl rfl
  | none =>
      cases hFragment : u.fragment with
      | some f =>
          rw [hQuery, hFragment] at hc
          cases hc
          exact .inr rfl
      | none =>
          rw [hQuery, hFragment] at hc
          cases hc

/- A path from the root ends the authority in front of it. -/
theorem endsServer_path
    {path : List Char}
    (kind : Kind)
    (hPath : path = [] ∨ IsRooted path)
    (hRest : ∀ c ∈ rest.head?, c = '?' ∨ c = '#') :
    EndsServer kind (path ++ rest) := by
  intro c hc
  rcases hPath with rfl | hRooted
  · rcases hRest c hc with rfl | rfl
    · cases kind <;> decide
    · cases kind <;> decide
  · have hHead := hRooted.append rest
    rw [IsRooted] at hHead
    rw [hHead] at hc
    cases hc
    cases kind <;> decide

/- A character in front of a cleaned text was in front of it. -/
theorem eq_cons_of_cleanEnd
    {cs more : List Char}
    (hPlain : ∀ d ∈ cs.head?, isControl d = false)
    (hClean : cleanEnd cs = c :: more) :
    ∃ tail, cs = c :: tail := by
  cases cs with
  | nil => cases hClean
  | cons d cs =>
      rcases cleanEnd_cons_cases cs (hPlain d rfl) with hNone | ⟨tail, hSome⟩
      · rw [hNone] at hClean
        cases hClean
      · rw [hSome, List.cons.injEq] at hClean
        rw [hClean.1]
        exact ⟨cs, rfl⟩

/- Cleaning makes no two slashes at the start of a path. -/
theorem cleanEnd_ne_slashes
    {path : List Char}
    (hPath : IsPath path)
    (hSlashes : Text.startsWith ['/', '/'] path = false)
    (hRest : ∀ c ∈ rest.head?, c = '?' ∨ c = '#')
    (more : List Char) :
    cleanEnd (path ++ rest) ≠ '/' :: '/' :: more := by
  have hHead :
      ∀ {part : List Char}, IsPath part →
        ∀ d ∈ (part ++ rest).head?, isControl d = false := by
    intro part hPart d hd
    cases part with
    | nil =>
        rcases hRest d hd with rfl | rfl
        · decide
        · decide
    | cons e part =>
        cases hd
        have hChar := hPart d List.mem_cons_self
        rw [isPathChar, Bool.and_eq_true, Bool.not_eq_true'] at hChar
        exact hChar.1
  have hSlash :
      ∀ {part tail : List Char}, part ++ rest = '/' :: tail →
        ∃ later, part = '/' :: later := by
    intro part tail hText
    cases part with
    | nil =>
        rw [List.nil_append] at hText
        exact absurd (hRest '/' (by rw [hText]; rfl)) (by decide)
    | cons e part =>
        rw [List.cons_append, List.cons.injEq] at hText
        rw [hText.1]
        exact ⟨part, rfl⟩
  intro hClean
  rcases eq_cons_of_cleanEnd (hHead hPath) hClean with ⟨tail, hText⟩
  rcases hSlash hText with ⟨later, rfl⟩
  rw [List.cons_append, cleanEnd_cons _ (by decide),
    List.cons.injEq] at hClean
  have hLater : IsPath later := fun c hc =>
    hPath c (List.mem_cons_of_mem _ hc)
  rcases eq_cons_of_cleanEnd (hHead hLater) hClean.2 with ⟨tail, hText⟩
  rcases hSlash hText with ⟨last, rfl⟩
  cases hSlashes

/- Without two slashes, a scheme that is not special has no server. -/
theorem exists_readOther
    {cs : List Char}
    (hSlashes : ∀ more, cs ≠ '/' :: '/' :: more) :
    ∃ v, readOther scheme cs = .ok v := by
  rw [readOther.eq_def]
  split
  · exact absurd rfl (hSlashes _)
  · exact ⟨_, rfl⟩
  · exact ⟨_, rfl⟩

/- The text of a URL without an authority can be read again. -/
theorem IsSound.exists_parse_flat
    (hSound : IsSound asked u)
    (hNone : u.authority = none) :
    ∃ v, parse u.text = .ok v := by
  have hOther : Kind.ofScheme u.scheme = .other := by
    by_contra hSpecial
    have hSome := hSound.front.hasServer hSpecial
    rw [hNone] at hSome
    cases hSome
  have hSlashes : ∀ more, cleanEnd u.behind ≠ '/' :: '/' :: more := by
    intro more
    rw [behind, hNone]
    dsimp only
    cases hTwo : Text.startsWith ['/', '/'] u.path with
    | true =>
        rw [if_pos rfl, List.cons_append, List.cons_append,
          cleanEnd_cons _ (by decide), cleanEnd_cons _ (by decide)]
        simp
    | false =>
        exact cleanEnd_ne_slashes hSound.front.isPath hTwo u.head?_ending more
  rw [text, write_eq_behind, hSound.front.isScheme.parse_append, readScheme,
    hOther]
  exact exists_readOther hSlashes

/- The text of a URL that was read can be read again. -/
theorem IsSound.exists_parse_text (hSound : IsSound asked u) :
    ∃ v, parse u.text = .ok v := by
  cases hServer : u.authority with
  | none => exact hSound.exists_parse_flat hServer
  | some a =>
      have hPath : u.path = [] ∨ IsRooted u.path :=
        hSound.front.served (Option.isSome_of_eq_some hServer)
      rcases exists_parse_server hSound.front.isScheme
          (hSound.front.isSound a hServer) (hSound.front.isSome_host hServer)
          (endsServer_path _ hPath u.head?_ending) with
        ⟨v, hParse, _⟩
      rw [text, write_eq_behind, behind_of_authority hServer]
      exact ⟨v, hParse⟩

end Url

end Gleaner
