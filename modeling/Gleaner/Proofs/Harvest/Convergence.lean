import Gleaner.Proofs.Harvest.Accounts
import Gleaner.Proofs.Harvest.Ledger
import Gleaner.Proofs.Harvest.Overlap
import Gleaner.Proofs.Harvest.Steady
import Gleaner.Proofs.Store.Parts
import Mathlib.Data.List.Perm.Basic

/-
  Harvests converge: whatever order tasks end in, the same
  records and media are there in the end.

  Main declarations:
    * `Harvest.Gained`
    * `Harvest.Sound`
    * `Harvest.sound_upkeep`
    * `Harvest.TakesPart`
    * `Harvest.Harvested`
    * `Harvest.Holdings.SameButDates`
    * `Harvest.batch_converges`
-/

namespace Gleaner

namespace Harvest

variable {E : Type}

------------------------------------------------------------
-- What Is Gained
------------------------------------------------------------

/-
  The record comes out of a listed page that is not stored, and
  it can be used as it is.
-/
def Gained (base : Services E) (stored addresses : List String)
    (r : Record) : Prop :=
  ∃ a, IsNew stored addresses a ∧
    ∃ e : Extraction, extract base a = .ok (some e) ∧ e.record = r

/- The bytes are those of a medium in a record that is gained. -/
def Wanted (base : Services E) (stored addresses : List String)
    (name : String) (bytes : List UInt8) : Prop :=
  ∃ r, Gained base stored addresses r ∧
    ∃ f ∈ r.mediaFiles, f.name = name ∧ base.media f.url = .ok bytes

/- The task can come up in a harvest. -/
def Due (base : Services E) (stored addresses : List String) :
    Task → Prop
  | .parse a => IsNew stored addresses a
  | .save e =>
      ∃ r m, Gained base stored addresses r ∧ e.record = r.dated m
  | .download f =>
      ∃ r, Gained base stored addresses r ∧ f ∈ r.mediaFiles

/- What the task is there for has been done. -/
def Settled (base : Services E) (h : Holdings) : Task → Prop
  | .parse _ => True
  | .save e =>
      ∃ m, h.store.under e.record.pageHash =
        Store.empty.save (e.record.dated m)
  | .download f =>
      (∃ err, base.media f.url = .error err) ∨
        (h.shelf.get? f.name).isSome

/-
  What was there is still there, but for pages whose records
  were gained, and nothing came in that is not wanted.
-/
structure Sound (base : Services E) (h : Holdings)
    (addresses : List String) (now : Holdings) : Prop where
  store :
    ∀ hash,
      now.store.under hash = h.store.under hash ∨
      ∃ r m, Gained base h.store.hashes addresses r ∧
        r.pageHash = hash ∧
        now.store.under hash = Store.empty.save (r.dated m)
  shelf :
    h.shelf.Grown (Wanted base h.store.hashes addresses) now.shelf

/-
  A handler may do tasks of a harvest whose pages it reads as all
  others do.
-/
def TakesPart (base : Services E) (h : Holdings)
    (addresses : List String) :
    Handler Holdings (Error E) → Prop :=
  Serves (base.Agrees (IsNew h.store.hashes addresses)) h.shelf

section Convergence

variable {base : Services E} {h : Holdings} {addresses : List String}

/- A record that is gained is that of one listed page alone. -/
theorem Gained.eq_of_pageHash_eq
    {stored : List String}
    (hTrimmed : ∀ a ∈ addresses, Text.strip a = a)
    (hPages : Set.InjOn Md5.hex {a | a ∈ addresses})
    {r q : Record}
    (hr : Gained base stored addresses r)
    (hq : Gained base stored addresses q)
    (hSame : r.pageHash = q.pageHash) :
    r = q := by
  rcases hr with ⟨a, ⟨ha, _⟩, e, hExtract, rfl⟩
  rcases hq with ⟨b, ⟨hb, _⟩, f, hExtract', rfl⟩
  simp only [Record.pageHash, pageUrl_of_extract hExtract,
    pageUrl_of_extract hExtract', hTrimmed a ha,
    hTrimmed b hb] at hSame
  have hPage : a = b := hPages ha hb hSame
  subst hPage
  rw [hExtract] at hExtract'
  cases hExtract'
  rfl

/-
  A download keeps the shelf sound: the medium is there
  afterwards if it can be fetched, and so is what was there.
-/
theorem download_grown
    (hOpen : h.shelf.blocked = false)
    {handler : Handler Holdings (Error E)}
    (hServes : TakesPart base h addresses handler)
    {now : Holdings}
    (hSound : Sound base h addresses now)
    {f : MediaFile}
    (hDue : Due base h.store.hashes addresses (.download f)) :
    h.shelf.Grown (Wanted base h.store.hashes addresses)
        (handler.act now (.download f)).2.shelf ∧
      ((∃ err, base.media f.url = .error err) ∨
        ((handler.act now (.download f)).2.shelf.get?
          f.name).isSome) ∧
      now.shelf.Within (handler.act now (.download f)).2.shelf := by
  rcases hServes with ⟨s, look, hAgrees, hLook, rfl⟩
  rcases hLook now hSound.shelf.within with ⟨hBefore, hAfter⟩
  rcases hDue with ⟨r, hGained, hf⟩
  have hPlain : Shelf.isPlain f.name = true := by
    rw [Record.name_of_mem_mediaFiles hf]
    exact Shelf.isPlain_mediaName f.url
  have hWanted :
      ∀ bytes, base.media f.url = .ok bytes →
        Wanted base h.store.hashes addresses f.name bytes := by
    intro bytes hFetch
    exact ⟨r, hGained, f, hf, rfl, hFetch⟩
  rw [shelf_act_download, hAgrees.media]
  exact hSound.shelf.deliverSince hOpen hPlain hWanted hBefore hAfter

/- A save settles its record for good, whatever is saved later. -/
theorem exists_under_save
    (hTrimmed : ∀ a ∈ addresses, Text.strip a = a)
    (hPages : Set.InjOn Md5.hex {a | a ∈ addresses})
    {store : Store}
    {e f : Extraction}
    (hDue : Due base h.store.hashes addresses (.save e))
    (hDue' : Due base h.store.hashes addresses (.save f))
    {m : Moment}
    (hSaved :
      store.under f.record.pageHash =
        Store.empty.save (f.record.dated m)) :
    ∃ m, (store.save e.record).under f.record.pageHash =
      Store.empty.save (f.record.dated m) := by
  rcases hDue with ⟨r, k, hr, hRecord⟩
  rcases hDue' with ⟨q, l, hq, hRecord'⟩
  rw [hRecord'] at hSaved ⊢
  rw [hRecord]
  by_cases hSame : r.pageHash = q.pageHash
  · have hEq := hr.eq_of_pageHash_eq hTrimmed hPages hq hSame
    subst hEq
    exact ⟨k, Store.under_save_self store (r.dated k)⟩
  · have hKept :
        (store.save (r.dated k)).under (q.dated l).pageHash =
          store.under (q.dated l).pageHash :=
      Store.under_save_of_ne hSame
    exact ⟨m, hKept.trans hSaved⟩

/- All tasks of a harvest keep it sound. -/
theorem sound_act
    (hOpen : h.shelf.blocked = false)
    {handler : Handler Holdings (Error E)}
    (hServes : TakesPart base h addresses handler)
    {now : Holdings}
    (hSound : Sound base h addresses now)
    {t : Task}
    (hDue : Due base h.store.hashes addresses t) :
    Sound base h addresses (handler.act now t).2 := by
  have hServes' := hServes
  rcases hServes with ⟨s, look, _, _, rfl⟩
  cases t with
  | parse a =>
      rw [state_act_parse]
      exact hSound
  | save e =>
      rcases hDue with ⟨r, m, hGained, hRecord⟩
      constructor
      · intro hash
        rw [store_act_save, hRecord]
        by_cases hSame : r.pageHash = hash
        · subst hSame
          exact .inr ⟨r, m, hGained, rfl,
            Store.under_save_self _ (r.dated m)⟩
        · have hKept :
              (now.store.save (r.dated m)).under hash =
                now.store.under hash :=
            Store.under_save_of_ne hSame
          rw [hKept]
          exact hSound.store hash
      · rw [shelf_act_save]
        exact hSound.shelf
  | download f =>
      rcases download_grown hOpen hServes' hSound hDue with
        ⟨hGrown, _, _⟩
      constructor
      · rw [store_act_download]
        exact hSound.store
      · exact hGrown

/- What a task gives rise to can come up in the harvest. -/
theorem due_of_mem_tasksOf_act
    {handler : Handler Holdings (Error E)}
    (hServes : TakesPart base h addresses handler)
    {now : Holdings}
    {t u : Task}
    (hDue : Due base h.store.hashes addresses t)
    (hu : u ∈ Pass.tasksOf (handler.act now t).1) :
    Due base h.store.hashes addresses u := by
  rcases hServes with ⟨s, look, hAgrees, _, rfl⟩
  cases t with
  | parse a =>
      rcases (mem_tasksOf_act_parse s look now).mp hu with
        ⟨e, hExtract, rfl⟩
      rcases (extract_eq_some_of_agrees hAgrees hDue).mp hExtract with
        ⟨f, hBase, rfl⟩
      exact ⟨f.record, s.now, ⟨a, hDue, f, hBase, rfl⟩, rfl⟩
  | save e =>
      rcases hDue with ⟨r, m, hGained, hRecord⟩
      rw [tasksOf_act_save, hRecord] at hu
      rcases List.mem_map.mp hu with ⟨f, hf, rfl⟩
      exact ⟨r, hGained, hf⟩
  | download f =>
      rw [tasksOf_act_download] at hu
      cases hu

/- A task does what it is there for. -/
theorem settled_act
    (hOpen : h.shelf.blocked = false)
    {handler : Handler Holdings (Error E)}
    (hServes : TakesPart base h addresses handler)
    {now : Holdings}
    (hSound : Sound base h addresses now)
    {t : Task}
    (hDue : Due base h.store.hashes addresses t) :
    Settled base (handler.act now t).2 t := by
  cases t with
  | parse a => trivial
  | save e =>
      rcases hServes with ⟨s, look, _, _, rfl⟩
      refine ⟨e.record.extractedAt, ?_⟩
      rw [store_act_save]
      exact Store.under_save_self _ e.record
  | download f =>
      rcases download_grown hOpen hServes hSound hDue with
        ⟨_, hThere, _⟩
      exact hThere

/- What was done stays done, whatever is done later. -/
theorem settled_act_of_settled
    (hTrimmed : ∀ a ∈ addresses, Text.strip a = a)
    (hOpen : h.shelf.blocked = false)
    (hPages : Set.InjOn Md5.hex {a | a ∈ addresses})
    {handler : Handler Holdings (Error E)}
    (hServes : TakesPart base h addresses handler)
    {now : Holdings}
    (hSound : Sound base h addresses now)
    {t u : Task}
    (hDue : Due base h.store.hashes addresses t)
    (hDue' : Due base h.store.hashes addresses u)
    (hSettled : Settled base now u) :
    Settled base (handler.act now t).2 u := by
  have hServes' := hServes
  rcases hServes with ⟨s, look, _, _, rfl⟩
  cases u with
  | parse a => trivial
  | save f =>
      cases t with
      | parse a =>
          rw [state_act_parse]
          exact hSettled
      | save e =>
          rcases hSettled with ⟨m, hSaved⟩
          rw [Settled, store_act_save]
          exact exists_under_save hTrimmed hPages hDue hDue' hSaved
      | download f =>
          rw [Settled, store_act_download]
          exact hSettled
  | download g =>
      rcases hSettled with hFailed | hThere
      · exact .inl hFailed
      · refine .inr ?_
        cases t with
        | parse a =>
            rw [state_act_parse]
            exact hThere
        | save e =>
            rw [shelf_act_save]
            exact hThere
        | download f =>
            rcases download_grown hOpen hServes' hSound hDue with
              ⟨_, _, hKept⟩
            exact hKept g.name hThere

/-
  All tasks of a harvest keep it sound, give rise to tasks that
  can come up in it, and do once and for all what they are
  there for.
-/
theorem sound_upkeep
    (hTrimmed : ∀ a ∈ addresses, Text.strip a = a)
    (hOpen : h.shelf.blocked = false)
    (hPages : Set.InjOn Md5.hex {a | a ∈ addresses}) :
    Pass.Upkeep (TakesPart base h addresses) (Sound base h addresses)
      (Due base h.store.hashes addresses) (Settled base) where
  inv := by
    intro handler now t hServes hSound hDue
    exact sound_act hOpen hServes hSound hDue
  due := by
    intro handler now t u hServes _ hDue hu
    exact due_of_mem_tasksOf_act hServes hDue hu
  settles := by
    intro handler now t hServes hSound hDue
    exact settled_act hOpen hServes hSound hDue
  keeps := by
    intro handler now t u hServes hSound hDue hDue' hSettled
    exact settled_act_of_settled hTrimmed hOpen hPages hServes
      hSound hDue hDue' hSettled

------------------------------------------------------------
-- What a Harvest Comes To
------------------------------------------------------------

/-
  What a harvest comes to: the records that are gained take the
  place of all that was there for their pages, other pages stay
  as they were, and the wanted media come in whose files were
  not there.
-/
structure Harvested (base : Services E) (h : Holdings)
    (addresses : List String) (final : Holdings) : Prop where
  gained :
    ∀ r, Gained base h.store.hashes addresses r →
      ∃ m, final.store.under r.pageHash =
        Store.empty.save (r.dated m)
  kept :
    ∀ hash,
      (∀ r, Gained base h.store.hashes addresses r →
        r.pageHash ≠ hash) →
      final.store.under hash = h.store.under hash
  shelf :
    ∃ added : List (String × List UInt8),
      final.shelf =
        ⟨false, h.shelf.made || !added.isEmpty,
          h.shelf.files ++ added⟩ ∧
      (added.map (·.1)).Nodup ∧
      ∀ name bytes,
        (name, bytes) ∈ added ↔
          h.shelf.get? name = none ∧
            Wanted base h.store.hashes addresses name bytes

/- At most one content is wanted for a name. -/
theorem Wanted.unique
    {stored : List String}
    (hMedia :
      Set.InjOn Md5.hex
        {url | ∃ r, Gained base stored addresses r ∧
          ∃ f ∈ r.mediaFiles, f.url = url})
    {name : String}
    {bytes other : List UInt8}
    (hWanted : Wanted base stored addresses name bytes)
    (hOther : Wanted base stored addresses name other) :
    bytes = other := by
  rcases hWanted with ⟨r, hr, f, hf, hName, hFetch⟩
  rcases hOther with ⟨q, hq, g, hg, rfl, hFetch'⟩
  rw [Record.name_of_mem_mediaFiles hf,
    Record.name_of_mem_mediaFiles hg] at hName
  have hUrl : f.url = g.url :=
    mediaName_injOn hMedia ⟨r, hr, f, hf, rfl⟩ ⟨q, hq, g, hg, rfl⟩
      hName
  rw [hUrl, hFetch'] at hFetch
  exact (Except.ok.inj hFetch).symm

section Histories

variable {limit : Nat} {log : List (Handled (Error E))}
variable {p : Pass Holdings (Error E)}

/-
  When all is over, each record that is gained has been saved,
  and its media have been downloaded.
-/
theorem exists_handled_of_gained
    (hHistory :
      Pass.History (TakesPart base h addresses) limit
        (Pass.begin (newPages h.store.hashes addresses) h) log p)
    (hOver : p.IsOver)
    {r : Record}
    (hGained : Gained base h.store.hashes addresses r) :
    ∃ e m, e.record = r.dated m ∧
      (∃ d ∈ log, d.task = .save e) ∧
      ∀ f ∈ r.mediaFiles, ∃ d ∈ log, d.task = .download f := by
  rcases hGained with ⟨a, hNew, f, hExtract, rfl⟩
  rcases
      exists_save_of_extract (hHistory.mono fun _ => fetches_of_serves)
        hOver hNew hExtract with
    ⟨m, _, d, hd, hTask⟩
  refine ⟨_, m, rfl, ⟨d, hd, hTask⟩, ?_⟩
  intro medium hMedium
  rcases hHistory.exists_handler d hd with
    ⟨handler, now, ⟨s, look, _, _, rfl⟩, hOutcome⟩
  apply hHistory.exists_of_mem_followUps hOver hd
  rw [Handled.followUps, hOutcome, hTask, tasksOf_act_save]
  exact List.mem_map_of_mem hMedium

/- A harvest begins with tasks that can come up in it. -/
theorem due_of_mem_pending_begin
    {t : Task}
    (ht :
      t ∈ (Pass.begin (newPages h.store.hashes addresses) h :
        Pass Holdings (Error E)).pending) :
    Due base h.store.hashes addresses t := by
  rcases mem_pending_begin_iff.mp ht with ⟨a, hNew, rfl⟩
  exact hNew

/-
  When all is over, no record that is gained is missing, and no
  medium of one that can be fetched.
-/
theorem settled_of_gained
    (hHistory :
      Pass.History (TakesPart base h addresses) limit
        (Pass.begin (newPages h.store.hashes addresses) h) log p)
    (hOver : p.IsOver)
    (hLog : ∀ d ∈ log, Settled base p.state d.task)
    {r : Record}
    (hGained : Gained base h.store.hashes addresses r) :
    (∃ m, p.state.store.under r.pageHash =
        Store.empty.save (r.dated m)) ∧
      ∀ f ∈ r.mediaFiles, ∀ bytes, base.media f.url = .ok bytes →
        (p.state.shelf.get? f.name).isSome := by
  rcases exists_handled_of_gained hHistory hOver hGained with
    ⟨e, m, hRecord, ⟨d, hd, hTask⟩, hMedia⟩
  constructor
  · have hSettled := hLog d hd
    rw [hTask, Settled, hRecord] at hSettled
    exact hSettled
  · intro f hf bytes hFetch
    rcases hMedia f hf with ⟨d', hd', hTask'⟩
    have hSettled := hLog d' hd'
    rw [hTask'] at hSettled
    rcases hSettled with ⟨err, hFailed⟩ | hThere
    · rw [hFetch] at hFailed
      cases hFailed
    · exact hThere

/- When all is over, a harvest has come to what it comes to. -/
theorem harvested_of_isOver
    (hTrimmed : ∀ a ∈ addresses, Text.strip a = a)
    (hOpen : h.shelf.blocked = false)
    (hPages : Set.InjOn Md5.hex {a | a ∈ addresses})
    (hMedia :
      Set.InjOn Md5.hex
        {url | ∃ r, Gained base h.store.hashes addresses r ∧
          ∃ f ∈ r.mediaFiles, f.url = url})
    (hHistory :
      Pass.History (TakesPart base h addresses) limit
        (Pass.begin (newPages h.store.hashes addresses) h) log p)
    (hOver : p.IsOver) :
    Harvested base h addresses p.state := by
  have hBegin : Sound base h addresses h :=
    ⟨fun _ => .inl rfl, .refl _ _⟩
  rcases
      (sound_upkeep hTrimmed hOpen hPages).history hHistory
        hBegin (fun _ => due_of_mem_pending_begin) with
    ⟨hSound, hLog, _⟩
  have hAll : ∀ d ∈ log, Settled base p.state d.task := by
    intro d hd
    exact (hLog d hd).2
  constructor
  · intro r hGained
    exact (settled_of_gained hHistory hOver hAll hGained).1
  · intro hash hOthers
    rcases hSound.store hash with hSame | ⟨r, m, hGained, hHash, _⟩
    · exact hSame
    · exact absurd hHash (hOthers r hGained)
  · rcases hSound.shelf with ⟨added, hShelf, hNames, hAdded⟩
    rw [hOpen] at hShelf
    refine ⟨added, hShelf, hNames, ?_⟩
    intro name bytes
    constructor
    · intro hMem
      exact hAdded _ hMem
    · rintro ⟨hNone, hWanted⟩
      have hThere : (p.state.shelf.get? name).isSome := by
        rcases hWanted with ⟨r, hGained, f, hf, rfl, hFetch⟩
        exact (settled_of_gained hHistory hOver hAll hGained).2 f hf
          bytes hFetch
      rw [Shelf.isSome_get?_iff, hShelf, List.map_append,
        List.mem_append] at hThere
      rcases hThere with hOld | hNew
      · exact absurd hOld (Shelf.get?_eq_none_iff.mp hNone)
      · rcases List.mem_map.mp hNew with ⟨⟨n, b⟩, hMem, hName⟩
        simp only at hName
        subst hName
        rcases hAdded _ hMem with ⟨_, hWanted'⟩
        rw [hWanted.unique hMedia hWanted']
        exact hMem

end Histories

------------------------------------------------------------
-- One Outcome
------------------------------------------------------------

/-
  The same rows are stored for every page but for their dates,
  and the same files are there, in whatever order they came.
-/
structure Holdings.SameButDates (x y : Holdings) : Prop where
  store :
    ∀ hash, (x.store.under hash).undated = (y.store.under hash).undated
  blocked : x.shelf.blocked = y.shelf.blocked
  made : x.shelf.made = y.shelf.made
  files : x.shelf.files.Perm y.shelf.files

/- All that a harvest can come to is the same but for dates. -/
theorem Harvested.sameButDates
    {x y : Holdings}
    (hx : Harvested base h addresses x)
    (hy : Harvested base h addresses y) :
    x.SameButDates y := by
  rcases hx.shelf with ⟨new, hShelf, hNames, hNew⟩
  rcases hy.shelf with ⟨new', hShelf', hNames', hNew'⟩
  have hPerm : new.Perm new' := by
    rw [List.perm_ext_iff_of_nodup hNames.of_map hNames'.of_map]
    rintro ⟨name, bytes⟩
    rw [hNew, hNew']
  constructor
  · intro hash
    by_cases hAny :
        ∃ r, Gained base h.store.hashes addresses r ∧
          r.pageHash = hash
    · rcases hAny with ⟨r, hGained, rfl⟩
      rcases hx.gained r hGained with ⟨m, hm⟩
      rcases hy.gained r hGained with ⟨n, hn⟩
      rw [hm, hn]
      rfl
    · have hNone :
          ∀ r, Gained base h.store.hashes addresses r →
            r.pageHash ≠ hash :=
        fun r hGained hSame => hAny ⟨r, hGained, hSame⟩
      rw [hx.kept hash hNone, hy.kept hash hNone]
  · rw [hShelf, hShelf']
  · rw [hShelf, hShelf', hPerm.isEmpty_eq]
  · rw [hShelf, hShelf']
    exact hPerm.append_left h.shelf.files

/-
  A batch with a limit that can be kept to comes to what it comes
  to, if its services agree with others on the pages.
-/
theorem harvested_batch
    (hTrimmed : ∀ a ∈ addresses, Text.strip a = a)
    (hOpen : h.shelf.blocked = false)
    (hPages : Set.InjOn Md5.hex {a | a ∈ addresses})
    (hMedia :
      Set.InjOn Md5.hex
        {url | ∃ r, Gained base h.store.hashes addresses r ∧
          ∃ f ∈ r.mediaFiles, f.url = url})
    {s : Services E}
    (hAgrees : base.Agrees (IsNew h.store.hashes addresses) s)
    {concurrency : Nat}
    (hLimit : limitOf concurrency ≤ maxLimit) :
    Harvested base h addresses (batch s concurrency h addresses).2 := by
  rcases exists_history_of_batch s hLimit h addresses with
    ⟨log, p, hHistory, hOver, hBatch⟩
  have hTakesPart :
      Pass.History (TakesPart base h addresses) (limitOf concurrency)
        (Pass.begin (newPages h.store.hashes addresses) h) log p := by
    refine hHistory.mono ?_
    rintro _ rfl
    exact handler_serves hAgrees h.shelf
  rw [hBatch]
  exact harvested_of_isOver hTrimmed hOpen hPages hMedia hTakesPart hOver

/-
  If the new pages are steady: in whatever order the tasks of a
  batch end, whenever each of them is done, however downloads
  overlap, in whatever order attributes come and whatever becomes
  of the events, the batch comes to the same, and so does the
  program at any other limit that can be kept to.
-/
theorem batch_converges
    (hTrimmed : ∀ a ∈ addresses, Text.strip a = a)
    (hOpen : h.shelf.blocked = false)
    (hPages : Set.InjOn Md5.hex {a | a ∈ addresses})
    (hMedia :
      Set.InjOn Md5.hex
        {url | ∃ r, Gained base h.store.hashes addresses r ∧
          ∃ f ∈ r.mediaFiles, f.url = url})
    (hSteady :
      ∀ a, IsNew h.store.hashes addresses a → base.Steady a)
    {concurrency : Nat}
    {log : List (Handled (Error E))}
    {p : Pass Holdings (Error E)}
    (hHistory :
      Pass.History (Serves base.Alike h.shelf) (limitOf concurrency)
        (Pass.begin (newPages h.store.hashes addresses) h) log p)
    (hOver : p.IsOver) :
    Harvested base h addresses p.state ∧
      ∀ (s : Services E) (other : Nat),
        base.Alike s → limitOf other ≤ maxLimit →
          Harvested base h addresses (batch s other h addresses).2 ∧
            p.state.SameButDates (batch s other h addresses).2 := by
  have hTakesPart :
      Pass.History (TakesPart base h addresses) (limitOf concurrency)
        (Pass.begin (newPages h.store.hashes addresses) h) log p := by
    refine hHistory.mono ?_
    intro handler hServes
    exact hServes.mono fun _ hAlike => agrees_of_alike hSteady hAlike
  have hHarvested :=
    harvested_of_isOver hTrimmed hOpen hPages hMedia hTakesPart hOver
  refine ⟨hHarvested, ?_⟩
  intro s other hAlike hLimit
  have hHarvested' :=
    harvested_batch hTrimmed hOpen hPages hMedia
      (agrees_of_alike hSteady hAlike) hLimit
  exact ⟨hHarvested', hHarvested.sameButDates hHarvested'⟩

end Convergence

------------------------------------------------------------
-- A Sample
------------------------------------------------------------

/- The record that is read from a page is gained with it. -/
theorem gained_of_extract
    {s : Services E}
    {stored addresses : List String}
    {address : String}
    (hNew : IsNew stored addresses address)
    {e : Extraction}
    (hExtract : extract s address = .ok (some e)) :
    Gained s stored addresses e.record :=
  ⟨address, hNew, e, hExtract, rfl⟩

/- Digests tell the listed pages of the sample apart. -/
theorem injOn_sampleAddresses :
    Set.InjOn Md5.hex {a | a ∈ sampleAddresses} := by
  have hAll :
      ∀ a ∈ sampleAddresses, ∀ b ∈ sampleAddresses,
        Md5.hex a = Md5.hex b → a = b := by
    decide +kernel
  intro a ha b hb hSame
  exact hAll a ha b hb hSame

section SampleRecord

variable {e : Extraction}
variable
    (hExtract :
      extract sampleServices "http://[::1]/1" = .ok (some e))

include hExtract

/- The one record of the sample is read from its first page. -/
theorem eq_of_gained_sample
    {r : Record}
    (hGained : Gained sampleServices [] sampleAddresses r) :
    r = e.record := by
  have hFailed :
      extract sampleServices "http://[::1]/2" = .error (.fetch ()) := by
    decide +kernel
  rcases hGained with ⟨a, ⟨ha, _⟩, f, hf, rfl⟩
  simp only [sampleAddresses, List.mem_cons, List.not_mem_nil,
    or_false] at ha
  rcases ha with rfl | rfl | rfl
  · rw [hExtract] at hf
    cases hf
    rfl
  · rw [hFailed] at hf
    cases hf
  · rw [hExtract] at hf
    cases hf
    rfl

/- With one picture, digests tell the media of the sample apart. -/
theorem injOn_sampleMedia
    (hFiles :
      e.record.mediaFiles = [.ofUrl "http://[::1]/1.png"]) :
    Set.InjOn Md5.hex
      {url | ∃ r, Gained sampleServices [] sampleAddresses r ∧
        ∃ f ∈ r.mediaFiles, f.url = url} := by
  apply Set.Subsingleton.injOn
  rintro _ ⟨r, hr, f, hf, rfl⟩ _ ⟨q, hq, g, hg, rfl⟩
  rw [eq_of_gained_sample hExtract hr, hFiles,
    List.mem_singleton] at hf
  rw [eq_of_gained_sample hExtract hq, hFiles,
    List.mem_singleton] at hg
  rw [hf, hg]

end SampleRecord

/-
  A page is listed twice, another cannot be fetched, and no
  event arrives: the record and its picture are there.
-/
theorem batch_converges_sample :
    ∃ r, Gained sampleServices [] sampleAddresses r ∧
      (∃ m, (batch sampleServices 2 .empty
          sampleAddresses).2.store.under r.pageHash =
        Store.empty.save (r.dated m)) ∧
      ((batch sampleServices 2 .empty sampleAddresses).2.shelf.get?
        (mediaName "http://[::1]/1.png")).isSome := by
  rcases extract_sample with ⟨e, hExtract, hFiles⟩
  have hGained : Gained sampleServices [] sampleAddresses e.record :=
    gained_of_extract ⟨List.mem_cons_self, List.not_mem_nil⟩ hExtract
  rcases
      Pass.run_isOver
        (handler_serves (Services.Alike.refl sampleServices) Shelf.fresh)
        (limitOf_pos 1)
        (Pass.begin (newPages [] sampleAddresses) .empty) with
    ⟨hOver, log, hHistory⟩
  rcases
      batch_converges (h := .empty) (by decide) rfl
        injOn_sampleAddresses (injOn_sampleMedia hExtract hFiles)
        (fun a _ => steady_sample a)
        hHistory hOver with
    ⟨_, hProgram⟩
  rcases hProgram sampleServices 2 (.refl _) (by decide) with
    ⟨hHarvested, _⟩
  refine ⟨e.record, hGained, hHarvested.gained _ hGained, ?_⟩
  rcases hHarvested.shelf with ⟨added, hShelf, _, hAdded⟩
  have hPicture :
      (mediaName "http://[::1]/1.png", [1]) ∈ added := by
    rw [hAdded]
    refine ⟨rfl, e.record, hGained, .ofUrl "http://[::1]/1.png", ?_⟩
    exact ⟨by simp [hFiles], rfl, rfl⟩
  rw [Shelf.isSome_get?_iff, hShelf]
  exact List.mem_map.mpr
    ⟨_, List.mem_append_right _ hPicture, rfl⟩

/- Batches that come to the same store the same description. -/
theorem description_eq_of_sameButDates
    {s t : Services E}
    (hNow : s.now.isValid = true)
    (hNow' : t.now.isValid = true)
    {concurrency : Nat}
    (hLimit : limitOf concurrency ≤ maxLimit)
    {address : String}
    (hTrimmed : Text.strip address = address)
    {e f : Extraction}
    (hRead : extract s address = .ok (some e))
    (hRead' : extract t address = .ok (some f))
    (hSame :
      (batch s concurrency .empty [address]).2.SameButDates
        (batch t concurrency .empty [address]).2) :
    e.record.description = f.record.description := by
  rcases
      exists_under_batch (h := .empty) hNow hLimit hTrimmed
        List.not_mem_nil hRead with
    ⟨m, _, hUnder⟩
  rcases
      exists_under_batch (h := .empty) hNow' hLimit hTrimmed
        List.not_mem_nil hRead' with
    ⟨n, _, hUnder'⟩
  have hStored := hSame.store (Md5.hex address)
  rw [hUnder, hUnder'] at hStored
  exact Store.description_eq_of_undated hStored

/-
  With a limit that cannot be kept to, nothing is gained.  With
  any other, the order of the attributes of a page that is not
  steady shows in what is stored.
-/
theorem batch_diverges :
    ¬ Harvested sampleServices .empty sampleAddresses
        (batch sampleServices (2 ^ 61) .empty sampleAddresses).2 ∧
      (cutTagServices .source).Alike (cutTagServices .reversed) ∧
      ¬ (batch (cutTagServices .source) 1 .empty
            ["http://[::1]/1"]).2.SameButDates
          (batch (cutTagServices .reversed) 1 .empty
            ["http://[::1]/1"]).2 := by
  refine ⟨?_, ⟨rfl, rfl, rfl, rfl⟩, ?_⟩
  · intro hHarvested
    rcases extract_sample with ⟨e, hExtract, _⟩
    have hGained : Gained sampleServices [] sampleAddresses e.record :=
      gained_of_extract ⟨List.mem_cons_self, List.not_mem_nil⟩ hExtract
    rcases hHarvested.gained _ hGained with ⟨m, hUnder⟩
    rw [batch_of_lt sampleServices (by decide)] at hUnder
    cases congrArg (·.products) hUnder
  · intro hSame
    rcases exists_extract_cutTag with
      ⟨⟨e, hRead, hTexts⟩, f, hRead', hTexts'⟩
    have hLimit : limitOf 1 ≤ maxLimit := by decide
    have hDescription :=
      description_eq_of_sameButDates rfl rfl hLimit (by decide) hRead
        hRead' hSame
    rw [hDescription, hTexts'] at hTexts
    exact absurd hTexts (by decide)

end Harvest

end Gleaner
