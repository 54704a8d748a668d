import Gleaner.Proofs.Harvest.History
import Gleaner.Proofs.Harvest.Reading
import Mathlib

/-
  The accounts of a harvest: what its report says of the tasks
  that were done, in whatever order they ended and whichever of
  them failed.

  Main declarations:
    * `Harvest.Handler.Harvests`
    * `Harvest.handler_harvests`
    * `Harvest.Accounts`
    * `Harvest.accounts_of_handler`
    * `Harvest.batch_accounts`
-/

namespace Gleaner

namespace Harvest

------------------------------------------------------------
-- Answers of a Harvest
------------------------------------------------------------

section Answers

variable {S E : Type}

/-
  A handler answers as in a harvest, unless a task fails: a page
  gives rise to a usable record or to nothing, a record to the
  downloads of its media, and a download to nothing.  Any task
  may fail at any time.
-/
structure Handler.Harvests (handler : Handler S E) : Prop where
  parse :
    ∀ {s : S} {address : String} {us : List Task},
      (handler.act s (.parse address)).1 = .ok us →
        us = [] ∨ ∃ e : Extraction, e.valid = true ∧ us = [.save e]
  save :
    ∀ {s : S} {e : Extraction} {us : List Task},
      (handler.act s (.save e)).1 = .ok us →
        us = e.record.mediaFiles.map Task.download
  download :
    ∀ {s : S} {m : MediaFile} {us : List Task},
      (handler.act s (.download m)).1 = .ok us → us = []

/- The handler of a harvest answers as in a harvest. -/
theorem handler_harvests (s : Services E) :
    (handler s).Harvests where
  parse := by
    intro h address us hOk
    simp only [handler, handle] at hOk
    cases hExtract : extract s address with
    | error e =>
        rw [hExtract] at hOk
        cases hOk
    | ok found =>
        rw [hExtract] at hOk
        simp only [Except.map, Except.ok.injEq] at hOk
        cases found with
        | none => exact .inl hOk.symm
        | some e =>
            exact .inr ⟨e, valid_of_extract hExtract, hOk.symm⟩
  save := by
    intro h e us hOk
    simp only [handler, handle, Except.ok.injEq] at hOk
    exact hOk.symm
  download := by
    intro h m us hOk
    simp only [handler, handle] at hOk
    cases hDone : (download s h m).1 with
    | error e =>
        rw [hDone] at hOk
        cases hOk
    | ok x =>
        rw [hDone] at hOk
        simp only [Except.map, Except.ok.injEq] at hOk
        exact hOk.symm

end Answers

------------------------------------------------------------
-- Counting Answers
------------------------------------------------------------

namespace Handled

variable {S E : Type}

/- The task was a page from which a usable record was read. -/
def hasRecord (d : Handled E) : Bool :=
  match d.task, d.outcome with
  | .parse _, .ok [.save e] => e.valid
  | _, _ => false

/- The number of media of a record that was saved. -/
def mediaCount (d : Handled E) : Nat :=
  match d.task, d.outcome with
  | .save e, .ok _ => e.record.mediaFiles.length
  | _, _ => 0

/- The outcome is one that a harvest may have for the task. -/
def IsHarvested (d : Handled E) : Prop :=
  ∃ (S : Type) (handler : Handler S E) (s : S),
    handler.Harvests ∧ d.outcome = (handler.act s d.task).1

/- What a task gave rise to shows in the counts of its log. -/
theorem countP_followUps
    {d : Handled E}
    (hHarvested : d.IsHarvested) :
    d.followUps.countP (·.rank == 2) = 0 ∧
      d.followUps.countP (·.rank == 1) =
        (if d.hasRecord then 1 else 0) ∧
      d.followUps.countP (·.rank == 0) = d.mediaCount := by
  rcases hHarvested with ⟨S, handler, s, hHarvests, hOutcome⟩
  rcases d with ⟨task, outcome⟩
  simp only at hOutcome
  cases outcome with
  | error e =>
      cases task <;>
        simp [followUps, Pass.tasksOf, hasRecord, mediaCount]
  | ok us =>
      cases task with
      | parse address =>
          rcases hHarvests.parse hOutcome.symm with
            rfl | ⟨e, hValid, rfl⟩
          · simp [followUps, Pass.tasksOf, hasRecord, mediaCount]
          · simp [followUps, Pass.tasksOf, hasRecord, mediaCount,
              hValid, Task.rank]
      | save e =>
          rw [hHarvests.save hOutcome.symm]
          simp [followUps, Pass.tasksOf, hasRecord, mediaCount,
            List.countP_map, Function.comp_def, Task.rank]
      | download m =>
          rw [hHarvests.download hOutcome.symm]
          simp [followUps, Pass.tasksOf, hasRecord, mediaCount]

/- What the tasks of a log gave rise to shows in its counts. -/
theorem countP_flatMap_followUps
    {log : List (Handled E)}
    (hLog : ∀ d ∈ log, d.IsHarvested) :
    (log.flatMap (·.followUps)).countP (·.rank == 2) = 0 ∧
      (log.flatMap (·.followUps)).countP (·.rank == 1) =
        log.countP (·.hasRecord) ∧
      (log.flatMap (·.followUps)).countP (·.rank == 0) =
        (log.map (·.mediaCount)).sum := by
  induction log with
  | nil => simp
  | cons d log ih =>
      rcases countP_followUps (hLog d List.mem_cons_self) with
        ⟨hPages, hSaved, hMedia⟩
      rcases ih fun d' hd' => hLog d' (List.mem_cons_of_mem _ hd') with
        ⟨ihPages, ihSaved, ihMedia⟩
      simp only [List.flatMap_cons, List.countP_append,
        List.countP_cons, List.map_cons, List.sum_cons]
      omega

end Handled

/- All outcomes in the log of a harvest are those of a harvest. -/
theorem Pass.History.isHarvested
    {S E : Type}
    {limit : Nat}
    {p q : Pass S E}
    {log : List (Handled E)}
    (hHistory : History Handler.Harvests limit p log q) :
    ∀ d ∈ log, d.IsHarvested := by
  intro d hd
  rcases hHistory.exists_handler d hd with
    ⟨handler, s, hHarvests, hOutcome⟩
  exact ⟨S, handler, s, hHarvests, hOutcome⟩

------------------------------------------------------------
-- The Report of a Harvest
------------------------------------------------------------

/-
  A report fits the log of a harvest: each task that was queued
  was done once; the pages are the listed ones that were not
  stored, the saved records those that were read, the downloads
  the media of all records that were saved, and the failures
  the tasks that failed.
-/
structure Accounts
    {E : Type}
    (stored addresses : List String)
    (log : List (Handled E))
    (report : Report) : Prop where
  handled :
    (log.map (·.task)).Perm
      (newPages stored addresses ++ log.flatMap (·.followUps))
  pages :
    report.pages =
      addresses.countP fun a => decide (Md5.hex a ∉ stored)
  saved : report.saved = log.countP (·.hasRecord)
  downloads : report.downloads = (log.map (·.mediaCount)).sum
  failed : report.failed = log.countP (·.isFailed)

/- Every page of a new list is read from a listed address. -/
theorem countP_newPages (stored addresses : List String) :
    (newPages stored addresses).countP (·.rank == 2) =
      addresses.countP fun a => decide (Md5.hex a ∉ stored) := by
  unfold newPages
  rw [List.countP_map, List.countP_eq_length_filter
    (p := fun a => decide (Md5.hex a ∉ stored))]
  simp [Function.comp_def, Task.rank]

/- A list of pages holds nothing but pages. -/
theorem countP_newPages_of_ne
    (stored addresses : List String)
    {rank : Nat}
    (hRank : rank ≠ 2) :
    (newPages stored addresses).countP (·.rank == rank) = 0 := by
  simp [newPages, List.countP_map, Function.comp_def, Task.rank,
    hRank.symm]

/- The report of a harvest that is over fits its log. -/
theorem Pass.History.accounts
    {S E : Type}
    {stored addresses : List String}
    {limit : Nat}
    {state : S}
    {log : List (Handled E)}
    {p : Pass S E}
    (hHistory :
      History Handler.Harvests limit
        (begin (newPages stored addresses) state) log p)
    (hOver : p.IsOver) :
    Accounts stored addresses log p.report := by
  have hStarted := hHistory.started_balance
  have hFailed := hHistory.failed_eq hOver
  have hHandled := hHistory.handled_perm hOver
  rcases Handled.countP_flatMap_followUps hHistory.isHarvested with
    ⟨hPages, hSaved, hMedia⟩
  rcases hOver with ⟨hQueue, hRunning, hResults⟩
  have hNone : p.unstarted = [] := by
    simp [unstarted, hQueue, hResults]
  have hAll :
      (begin (newPages stored addresses) state :
        Pass S E).unstarted = newPages stored addresses := by
    simp [unstarted, begin]
  constructor
  · simpa [begin, pending] using hHandled
  · have hCount := hStarted 2
    rw [hNone, hAll, hPages, countP_newPages] at hCount
    simpa [begin, Report.zero, Report.started] using hCount
  · have hCount := hStarted 1
    rw [hNone, hAll, hSaved,
      countP_newPages_of_ne _ _ (by decide)] at hCount
    simpa [begin, Report.zero, Report.started] using hCount
  · have hCount := hStarted 0
    rw [hNone, hAll, hMedia,
      countP_newPages_of_ne _ _ (by decide)] at hCount
    simpa [begin, Report.zero, Report.started] using hCount
  · exact hFailed

/-
  When the handler of a harvest has done all tasks of a pass, the
  report fits the log.
-/
theorem accounts_of_handler
    {E : Type}
    {s : Services E}
    {stored addresses : List String}
    {limit : Nat}
    {state : Holdings}
    {log : List (Handled (Error E))}
    {p : Pass Holdings (Error E)}
    (hHistory :
      Pass.History (· = handler s) limit
        (Pass.begin (newPages stored addresses) state) log p)
    (hOver : p.IsOver) :
    Accounts stored addresses log p.report := by
  have hHarvests :
      Pass.History Handler.Harvests limit
        (Pass.begin (newPages stored addresses) state) log p := by
    refine hHistory.mono ?_
    rintro _ rfl
    exact handler_harvests s
  exact hHarvests.accounts hOver

/-
  With any limit that can be kept to, a batch is a pass in which
  the handler of the harvest does all tasks: when it ends, each
  task that was queued has been done once, and the report fits the
  log of the tasks.  And however the tasks take turns and
  whichever of them fail: no more of them run at a time than are
  allowed, and one of them may always run; there is always a next
  move until all is over, and no moves can be made forever; and
  when all is over, the report fits the log.
-/
theorem batch_accounts
    {E : Type}
    (s : Services E)
    {concurrency : Nat}
    (hLimit : limitOf concurrency ≤ maxLimit)
    (h : Holdings)
    (addresses : List String) :
    (∃ (log : List (Handled (Error E)))
        (p : Pass Holdings (Error E)),
      Pass.History (· = handler s) (limitOf concurrency)
        (Pass.begin (newPages h.store.hashes addresses) h) log p ∧
      p.IsOver ∧
      batch s concurrency h addresses = (some p.report, p.state) ∧
      Accounts h.store.hashes addresses log p.report) ∧
    (∀ (log : List (Handled (Error E)))
        (p : Pass Holdings (Error E)),
      Pass.History Handler.Harvests (limitOf concurrency)
        (Pass.begin (newPages h.store.hashes addresses) h) log p →
      p.running.length ≤ max 1 concurrency ∧
      (¬ p.IsOver →
        ∃ m, ∀ handler : Handler Holdings (Error E),
          (p.move? handler (limitOf concurrency) m).isSome) ∧
      (p.IsOver → Accounts h.store.hashes addresses log p.report)) ∧
    ∀ chain : Nat → Pass Holdings (Error E),
      ¬ ∀ n, ∃ handler m,
        (chain n).move? handler (limitOf concurrency) m =
          some (chain (n + 1)) := by
  refine ⟨?_, ?_, Pass.no_endless_moves (limitOf concurrency)⟩
  · rcases exists_history_of_batch s hLimit h addresses with
      ⟨log, p, hHistory, hOver, hBatch⟩
    exact ⟨log, p, hHistory, hOver, hBatch,
      accounts_of_handler hHistory hOver⟩
  · intro log p hHistory
    refine ⟨hHistory.running_le (Nat.zero_le _), ?_, hHistory.accounts⟩
    intro hOpen
    rcases
        Pass.exists_move_of_not_isOver (limitOf_pos concurrency)
          hOpen with
      ⟨m, _, hMove⟩
    exact ⟨m, hMove⟩

/-
  A page is listed twice, and another cannot be fetched.  With room
  for no task at all one runs at a time: three pages are read, two
  records are saved, and the one task that fails is counted.
-/
theorem batch_accounts_sample :
    ∃ (log : List (Handled (Error Unit)))
        (p : Pass Holdings (Error Unit)),
      Pass.History (· = handler sampleServices) (limitOf 0)
        (Pass.begin (newPages [] sampleAddresses) .empty) log p ∧
      p.report = ⟨3, 2, 2, 1⟩ ∧
      (batch sampleServices 0 .empty sampleAddresses).1 =
        some p.report ∧
      Accounts [] sampleAddresses log ⟨3, 2, 2, 1⟩ := by
  have hReport :
      (batch sampleServices 0 .empty sampleAddresses).1 =
        some ⟨3, 2, 2, 1⟩ := by
    rw [batch_of_le sampleServices (by decide),
      Pass.run_eq_runFor 30 (by decide +kernel)]
    decide +kernel
  have hLimit : limitOf 0 ≤ maxLimit := by decide
  rcases
      batch_accounts sampleServices hLimit .empty sampleAddresses with
    ⟨⟨log, p, hHistory, _, hBatch, hAccounts⟩, _⟩
  rw [hBatch, Option.some.injEq] at hReport
  rw [hReport] at hAccounts
  exact ⟨log, p, hHistory, hReport, by rw [hBatch], hAccounts⟩

/-
  With a limit that cannot be kept to there is no report, though
  pages are listed that are not stored, and no task is done.
-/
theorem no_report_above_limit :
    maxLimit < limitOf (2 ^ 61) ∧
    newPages [] sampleAddresses = sampleAddresses.map Task.parse ∧
    batch sampleServices (2 ^ 61) .empty sampleAddresses =
      (none, .empty) :=
  ⟨by decide, rfl, batch_of_lt sampleServices (by decide) _ _⟩

end Harvest

end Gleaner
