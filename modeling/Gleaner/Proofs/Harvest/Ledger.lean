import Gleaner.Proofs.Harvest.History
import Gleaner.Proofs.Harvest.Overlap
import Gleaner.Proofs.Store.Recall

/-
  The saves in the log of a pass: the store is what it was with
  the records that were saved put in, and all of them came from
  listed pages.

  Main declarations:
    * `Harvest.savedIn`
    * `Harvest.CameFrom`
    * `Harvest.exists_cameFrom_of_mem_savedIn`
    * `Harvest.Handler.Stores`
    * `Harvest.store_of_history`
    * `Harvest.Reads`
    * `Harvest.CameFrom.exists_dated`
    * `Harvest.exists_saved_of_extract`
    * `Harvest.exists_under_of_extract`
    * `Harvest.exists_under_batch`
-/

namespace Gleaner

namespace Harvest

variable {E : Type}

------------------------------------------------------------
-- Saves
------------------------------------------------------------

/- The extraction that a task has put in the store, if any. -/
def Handled.saved? (d : Handled E) : Option Extraction :=
  match d.task, d.outcome with
  | .save e, .ok _ => some e
  | _, _ => none

/- The extractions that were put in the store, the earliest first. -/
def savedIn (log : List (Handled E)) : List Extraction :=
  log.filterMap (·.saved?)

/- A store with what was saved in a log put in. -/
def filed (store : Store) (log : List (Handled E)) : Store :=
  store.saveAll ((savedIn log).map (·.record))

@[simp] theorem filed_nil (store : Store) :
    filed store ([] : List (Handled E)) = store :=
  rfl

/- What was saved in a log is put in part by part. -/
theorem filed_append
    (store : Store)
    (log more : List (Handled E)) :
    filed store (log ++ more) = filed (filed store log) more := by
  rw [filed, savedIn, List.filterMap_append, List.map_append,
    Store.saveAll_append]
  rfl

/- The digests of stored pages grow by those that were saved. -/
theorem mem_hashes_filed_iff
    {store : Store}
    {log : List (Handled E)}
    {hash : String} :
    hash ∈ (filed store log).hashes ↔
      hash ∈ store.hashes ∨
        ∃ e ∈ savedIn log, e.record.pageHash = hash := by
  rw [filed, Store.mem_hashes_saveAll_iff]
  simp only [List.mem_map, exists_exists_and_eq_and]

/- What is under a digest that was saved is one record that was. -/
theorem exists_under_filed
    (store : Store)
    {log : List (Handled E)}
    {e : Extraction}
    (he : e ∈ savedIn log) :
    ∃ f ∈ savedIn log, f.record.pageHash = e.record.pageHash ∧
      (filed store log).under e.record.pageHash =
        Store.empty.save f.record := by
  have hRecord : e.record ∈ (savedIn log).map (·.record) :=
    List.mem_map.mpr ⟨e, he, rfl⟩
  rcases Store.exists_under_saveAll store hRecord with
    ⟨r, hr, hHash, hUnder⟩
  rcases List.mem_map.mp hr with ⟨f, hf, rfl⟩
  exact ⟨f, hf, hHash, hUnder⟩

/- What was saved was saved by a task that did not fail. -/
theorem mem_savedIn_iff
    {log : List (Handled E)}
    {e : Extraction} :
    e ∈ savedIn log ↔
      ∃ d ∈ log, d.task = .save e ∧ d.isFailed = false := by
  rw [savedIn, List.mem_filterMap]
  apply exists_congr
  rintro ⟨task, outcome⟩
  apply and_congr_right
  intro _
  cases task <;> cases outcome <;>
    simp [Handled.saved?, Handled.isFailed, Except.isOk, Except.toBool]

------------------------------------------------------------
-- Pages That Records Come From
------------------------------------------------------------

/- A page gave rise to the save of an extraction. -/
def CameFrom (log : List (Handled E)) (address : String)
    (e : Extraction) : Prop :=
  ∃ d ∈ log, d.task = .parse address ∧ Task.save e ∈ d.followUps

/- What a batch saves came from a page on its list. -/
theorem exists_cameFrom_of_mem_savedIn
    {S : Type}
    {able : Handler S E → Prop}
    {limit : Nat}
    {stored addresses : List String}
    {state : S}
    {log : List (Handled E)}
    {p : Pass S E}
    (hPass :
      Pass.History able limit
        (Pass.begin (newPages stored addresses) state) log p)
    {e : Extraction}
    (he : e ∈ savedIn log) :
    ∃ a ∈ addresses, CameFrom log a e := by
  rcases mem_savedIn_iff.mp he with ⟨d, hd, hTask, _⟩
  have hCame : Task.save e ∈ log.map (·.task) ++ p.pending :=
    List.mem_append_left _ (List.mem_map.mpr ⟨d, hd, hTask⟩)
  rw [hPass.tasks_perm.mem_iff, List.mem_append] at hCame
  rcases hCame with hQueued | hNew
  · rcases mem_pending_begin_iff.mp hQueued with ⟨_, _, hSame⟩
    cases hSame
  · rcases List.mem_flatMap.mp hNew with ⟨d', hd', hSave⟩
    have hRank := hPass.rank_lt_of_mem_followUps hd' hSave
    cases hTask' : d'.task with
    | save _ | download _ =>
        rw [hTask'] at hRank
        simp [Task.rank] at hRank
    | parse address =>
        have hPage : Task.parse address ∈
            log.map (·.task) ++ p.pending :=
          List.mem_append_left _ (List.mem_map.mpr ⟨d', hd', hTask'⟩)
        rw [hPass.mem_parse_iff, mem_pending_begin_iff] at hPage
        rcases hPage with ⟨a, ⟨ha, _⟩, hSame⟩
        cases hSame
        exact ⟨address, ha, d', hd', hTask', hSave⟩

------------------------------------------------------------
-- Handlers That Store
------------------------------------------------------------

/-
  A handler stores as in a harvest, though any task may fail at
  any time: a page gives rise only to saves of what can be read
  from it at some time, a save that does not fail puts its record
  in, and nothing else changes the store.
-/
structure Handler.Stores
    (handler : Handler Holdings (Error E)) : Prop where
  parse :
    ∀ {h : Holdings} {address : String} {u : Task},
      u ∈ Pass.tasksOf (handler.act h (.parse address)).1 →
        ∃ (s : Services E) (e : Extraction),
          extract s address = .ok (some e) ∧ u = .save e
  store :
    ∀ (h : Holdings) (t : Task),
      (handler.act h t).2.store =
        filed h.store [⟨t, (handler.act h t).1⟩]

/- The handler of a harvest stores as in a harvest. -/
theorem overlapping_stores
    (s : Services E)
    (look : Holdings → Shelf) :
    (overlapping s look).Stores where
  parse := by
    intro h address u hu
    rcases (mem_tasksOf_act_parse s look h).mp hu with ⟨e, hRead, hSave⟩
    exact ⟨s, e, hRead, hSave⟩
  store := by
    intro h t
    cases t with
    | parse address => rfl
    | save e => exact store_act_save s look h e
    | download f => rfl

theorem handler_stores (s : Services E) : (handler s).Stores := by
  rw [← overlapping_shelf]
  exact overlapping_stores s _

section Stores

variable {limit : Nat} {p q : Pass Holdings (Error E)}
variable {log : List (Handled (Error E))}

/- A move stores what is saved by the task that ends with it. -/
theorem store_of_move
    {handler : Handler Holdings (Error E)}
    (hStores : handler.Stores)
    {m : Pass.Move}
    (hMove : p.move? handler limit m = some q) :
    q.state.store = filed p.state.store (p.ended handler m) := by
  rcases Pass.state_of_move hMove with
    ⟨hNone, hState⟩ | ⟨t, _, hEnded, hState⟩
  · rw [hNone, hState, filed_nil]
  · rw [hEnded, hState, hStores.store]

/- A pass stores what is saved in its log, and nothing else. -/
theorem store_of_history
    (hHistory : Pass.History Handler.Stores limit p log q) :
    q.state.store = filed p.state.store log := by
  induction hHistory with
  | nil p => rfl
  | cons handler m hStores hMove _ ih =>
      rw [ih, store_of_move hStores hMove, filed_append]

/- What came from a page was read from it at some time. -/
theorem CameFrom.exists_extract
    (hHistory : Pass.History Handler.Stores limit p log q)
    {address : String}
    {e : Extraction}
    (hCame : CameFrom log address e) :
    ∃ s : Services E, extract s address = .ok (some e) := by
  rcases hCame with ⟨d, hd, hTask, hSave⟩
  rcases hHistory.exists_handler d hd with
    ⟨handler, h, hStores, hOutcome⟩
  rw [Handled.followUps, hOutcome, hTask] at hSave
  rcases hStores.parse hSave with ⟨s, f, hRead, hSame⟩
  cases hSame
  exact ⟨s, hRead⟩

/- What came from a page is kept under its address without blanks. -/
theorem CameFrom.pageHash
    (hHistory : Pass.History Handler.Stores limit p log q)
    {address : String}
    {e : Extraction}
    (hCame : CameFrom log address e) :
    e.record.pageHash = Md5.hex (Text.strip address) := by
  rcases hCame.exists_extract hHistory with ⟨s, hRead⟩
  rw [Record.pageHash, pageUrl_of_extract hRead]

end Stores

------------------------------------------------------------
-- Handlers That Read the Same
------------------------------------------------------------

/- A handler reads pages with services of some kind, at some moment. -/
def Reads (Kind : Services E → Prop)
    (handler : Handler Holdings (Error E)) : Prop :=
  Fetches (fun s => Kind s ∧ s.now.isValid = true) handler

/- The handler of a harvest reads pages with its services. -/
theorem handler_reads
    {Kind : Services E → Prop}
    {s : Services E}
    (hKind : Kind s)
    (hNow : s.now.isValid = true) :
    Reads Kind (handler s) :=
  ⟨s, _, ⟨hKind, hNow⟩, (overlapping_shelf s).symm⟩

/- Services of one kind may all be of another. -/
theorem Reads.mono
    {Kind Other : Services E → Prop}
    (hKinds : ∀ s, Kind s → Other s)
    {handler : Handler Holdings (Error E)}
    (hReads : Reads Kind handler) :
    Reads Other handler := by
  rcases hReads with ⟨s, look, ⟨hKind, hNow⟩, hSame⟩
  exact ⟨s, look, ⟨hKinds s hKind, hNow⟩, hSame⟩

/- What can be read is what is fetched. -/
theorem fetches_of_reads
    {Kind : Services E → Prop}
    {handler : Handler Holdings (Error E)}
    (hReads : Reads Kind handler) :
    Fetches Kind handler := by
  rcases hReads with ⟨s, look, ⟨hKind, _⟩, hSame⟩
  exact ⟨s, look, hKind, hSame⟩

/- What is read is stored as in a harvest. -/
theorem stores_of_reads
    {Kind : Services E → Prop}
    {handler : Handler Holdings (Error E)}
    (hReads : Reads Kind handler) :
    handler.Stores := by
  rcases hReads with ⟨s, look, _, rfl⟩
  exact overlapping_stores s look

section Reads

variable {base : Services E} {limit : Nat}
variable {p q : Pass Holdings (Error E)}
variable {log : List (Handled (Error E))}

/- What came from a page is what is read from it, but for its date. -/
theorem CameFrom.exists_dated
    {Pages : String → Prop}
    (hHistory : Pass.History (Reads (base.Agrees Pages)) limit p log q)
    {address : String}
    (hPage : Pages address)
    {e : Extraction}
    (hCame : CameFrom log address e) :
    ∃ (f : Extraction) (m : Moment),
      extract base address = .ok (some f) ∧
      m.isValid = true ∧ e = f.dated m := by
  rcases hCame with ⟨d, hd, hTask, hSave⟩
  rcases hHistory.exists_handler d hd with
    ⟨_, h, ⟨s, look, ⟨hAgrees, hNow⟩, rfl⟩, hOutcome⟩
  rw [Handled.followUps, hOutcome, hTask,
    mem_tasksOf_act_parse] at hSave
  rcases hSave with ⟨_, hRead, hSame⟩
  cases hSame
  rcases (extract_eq_some_of_agrees hAgrees hPage).mp hRead with
    ⟨f, hBase, rfl⟩
  exact ⟨f, s.now, hBase, hNow, rfl⟩

/- When a batch is over, what can be read from new pages is saved. -/
theorem exists_saved_of_extract
    {h : Holdings}
    {addresses : List String}
    (hPass :
      Pass.History (Reads (base.Agrees (IsNew h.store.hashes addresses)))
        limit (Pass.begin (newPages h.store.hashes addresses) h) log p)
    (hOver : p.IsOver)
    {address : String}
    (hNew : IsNew h.store.hashes addresses address)
    {f : Extraction}
    (hRead : extract base address = .ok (some f)) :
    ∃ e ∈ savedIn log, CameFrom log address e := by
  rcases
      exists_save_of_extract (hPass.mono fun _ => fetches_of_reads)
        hOver hNew hRead with
    ⟨m, hCame, d, hd, hTask⟩
  rcases hPass.exists_handler d hd with
    ⟨_, _, ⟨s, look, _, rfl⟩, hOutcome⟩
  refine ⟨f.dated m, mem_savedIn_iff.mpr ⟨d, hd, hTask, ?_⟩, hCame⟩
  rw [Handled.isFailed, hOutcome, hTask]
  rfl

/- When a batch of one page is over, what can be read is stored. -/
theorem exists_under_of_extract
    {h : Holdings}
    {address : String}
    (hTrimmed : Text.strip address = address)
    (hNew : Md5.hex address ∉ h.store.hashes)
    (hPass :
      Pass.History (Reads (base.Agrees (IsNew h.store.hashes [address])))
        limit (Pass.begin (newPages h.store.hashes [address]) h) log p)
    (hOver : p.IsOver)
    {f : Extraction}
    (hRead : extract base address = .ok (some f)) :
    ∃ m : Moment, m.isValid = true ∧
      p.state.store.under (Md5.hex address) =
        Store.empty.save (f.record.dated m) := by
  have hStores := hPass.mono fun _ => stores_of_reads
  have hListed : IsNew h.store.hashes [address] address :=
    ⟨List.mem_singleton_self address, hNew⟩
  rcases exists_saved_of_extract hPass hOver hListed hRead with
    ⟨e, he, hCame⟩
  have hHash := hCame.pageHash hStores
  rw [hTrimmed] at hHash
  -- What is stored may be another reading of the page.
  rcases exists_under_filed h.store he with ⟨e', he', _, hUnder⟩
  rcases exists_cameFrom_of_mem_savedIn hPass he' with ⟨a, ha, hCame'⟩
  rw [List.mem_singleton.mp ha] at hCame'
  rcases hCame'.exists_dated hPass hListed with
    ⟨f', m, hRead', hDate, hRecord⟩
  rw [hRead] at hRead'
  cases hRead'
  rw [hRecord, hHash] at hUnder
  refine ⟨m, hDate, ?_⟩
  rw [store_of_history hStores]
  exact hUnder

end Reads

/- What can be read from a page is stored by a batch of the page. -/
theorem exists_under_batch
    {s : Services E}
    (hNow : s.now.isValid = true)
    {concurrency : Nat}
    (hLimit : limitOf concurrency ≤ maxLimit)
    {h : Holdings}
    {address : String}
    (hTrimmed : Text.strip address = address)
    (hNew : Md5.hex address ∉ h.store.hashes)
    {f : Extraction}
    (hRead : extract s address = .ok (some f)) :
    ∃ m : Moment, m.isValid = true ∧
      (batch s concurrency h [address]).2.store.under
          (Md5.hex address) =
        Store.empty.save (f.record.dated m) := by
  rcases exists_history_of_batch s hLimit h [address] with
    ⟨log, p, hHistory, hOver, hBatch⟩
  have hPass :
      Pass.History (Reads (s.Agrees (IsNew h.store.hashes [address])))
        (limitOf concurrency)
        (Pass.begin (newPages h.store.hashes [address]) h) log p := by
    refine hHistory.mono ?_
    rintro _ rfl
    exact handler_reads (.refl _ s) hNow
  rw [hBatch]
  exact exists_under_of_extract hTrimmed hNew hPass hOver hRead

end Harvest

end Gleaner
