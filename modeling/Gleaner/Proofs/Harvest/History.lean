import Gleaner.Harvest.Pass
import Mathlib.Order.RelClasses
import Mathlib.Order.WellFounded

/-
  Histories of passes: the moves that were made, whichever of
  several handlers did each task, with a log of the tasks that
  ended and of what became of them.

  Main declarations:
    * `Harvest.Handled`
    * `Harvest.Pass.History`
    * `Harvest.Pass.move?_cases`
    * `Harvest.Pass.state_of_move`
    * `Harvest.Pass.History.handled_perm`
    * `Harvest.Pass.History.mem_parse_iff`
    * `Harvest.Pass.History.started_balance`
    * `Harvest.Pass.History.failed_balance`
    * `Harvest.Pass.Upkeep`
    * `Harvest.Pass.Upkeep.history`
    * `Harvest.Pass.exists_move_of_not_isOver`
    * `Harvest.Pass.no_endless_moves`
    * `Harvest.Pass.run_isOver`
    * `Harvest.Pass.run_eq_runFor`
    * `Harvest.exists_history_of_batch`
    * `Harvest.mem_pending_begin_iff`
-/

namespace Gleaner

namespace Harvest

------------------------------------------------------------
-- Tasks That Ended
------------------------------------------------------------

/-
  A task that ended, and what became of it.  A task that is
  broken off counts as one that failed.
-/
structure Handled (E : Type) where
  task : Task
  outcome : Except E (List Task)

namespace Handled

variable {E : Type}

/- The tasks that a task gave rise to. -/
def followUps (d : Handled E) : List Task :=
  Pass.tasksOf d.outcome

/- The task failed. -/
def isFailed (d : Handled E) : Bool :=
  !d.outcome.isOk

end Handled

------------------------------------------------------------
-- Counters of a Report
------------------------------------------------------------

/- The number of tasks of a rank that were started. -/
def Report.started (r : Report) : Nat → Nat
  | 2 => r.pages
  | 1 => r.saved
  | 0 => r.downloads
  | _ => 0

/- Starting a task counts for the rank of that task alone. -/
theorem Report.started_start
    (r : Report)
    (t : Task)
    (rank : Nat) :
    (r.start t).started rank =
      r.started rank + if t.rank == rank then 1 else 0 := by
  match rank with
  | 0 | 1 | 2 =>
      cases t <;> simp [Report.start, Report.started, Task.rank]
  | n + 3 =>
      cases t <;> simp [Report.started, Task.rank]

@[simp] theorem Report.started_fail
    (r : Report)
    (rank : Nat) :
    r.fail.started rank = r.started rank := by
  unfold Report.started Report.fail
  split <;> rfl

@[simp] theorem Report.failed_start
    (r : Report)
    (t : Task) :
    (r.start t).failed = r.failed := by
  cases t <;> rfl

namespace Pass

variable {S E : Type}

------------------------------------------------------------
-- Moves
------------------------------------------------------------

/- The task that ends with a move, and what becomes of it. -/
def ended (handler : Handler S E) (p : Pass S E) :
    Move → List (Handled E)
  | .finish index =>
      (p.running[index]?).toList.map fun t =>
        ⟨t, (handler.act p.state t).1⟩
  | _ => []

/- All that a move can do. -/
theorem move?_cases
    {handler : Handler S E}
    {limit : Nat}
    {p q : Pass S E}
    {m : Move}
    (hMove : p.move? handler limit m = some q) :
    (∃ t rest,
      m = .start ∧
      p.queue = t :: rest ∧
      p.running.length < limit ∧
      q = ⟨rest, p.running ++ [t], p.results, p.report.start t,
        p.state⟩) ∨
    (∃ index t,
      m = .finish index ∧
      p.running[index]? = some t ∧
      q = ⟨p.queue, p.running.eraseIdx index,
        p.results ++ [(handler.act p.state t).1], p.report,
        (handler.act p.state t).2⟩) ∨
    (∃ result rest,
      m = .collect ∧
      p.queue = [] ∧
      p.results = result :: rest ∧
      q = collect { p with results := rest } result) := by
  cases m with
  | start =>
      cases hQueue : p.queue with
      | nil => simp [move?, hQueue] at hMove
      | cons t rest =>
          simp only [move?, hQueue] at hMove
          split at hMove
          · rename_i hRoom
            simp only [Option.some.injEq] at hMove
            exact .inl ⟨t, rest, rfl, rfl, hRoom, hMove.symm⟩
          · cases hMove
  | finish index =>
      simp only [move?] at hMove
      cases hTask : p.running[index]? with
      | none =>
          rw [hTask] at hMove
          cases hMove
      | some t =>
          rw [hTask] at hMove
          simp only [Option.some.injEq] at hMove
          exact .inr (.inl ⟨index, t, rfl, hTask, hMove.symm⟩)
  | collect =>
      cases hQueue : p.queue with
      | cons t rest => simp [move?, hQueue] at hMove
      | nil =>
          cases hResults : p.results with
          | nil => simp [move?, hQueue, hResults] at hMove
          | cons result rest =>
              simp only [move?, hQueue, hResults,
                Option.some.injEq] at hMove
              exact .inr (.inr
                ⟨result, rest, rfl, rfl, rfl, hMove.symm⟩)

/-
  A pass comes about from another by moves, in each of which
  one of some handlers may do the task that ends.  The log
  holds the tasks that ended, the earliest first.
-/
inductive History (able : Handler S E → Prop) (limit : Nat) :
    Pass S E → List (Handled E) → Pass S E → Prop
  | nil (p : Pass S E) : History able limit p [] p
  | cons {p q r : Pass S E} {log : List (Handled E)}
      (handler : Handler S E)
      (m : Move)
      (hAble : able handler)
      (hMove : p.move? handler limit m = some q)
      (hRest : History able limit q log r) :
      History able limit p (p.ended handler m ++ log) r

------------------------------------------------------------
-- What One Move Preserves
------------------------------------------------------------

section Moves

variable {handler : Handler S E} {limit : Nat} {p q : Pass S E} {m : Move}

/-
  The tasks of a kind that ended, and those that are pending,
  are those that were pending and those that came up.
-/
theorem pending_balance
    (hMove : p.move? handler limit m = some q)
    (f : Task → Bool) :
    ((p.ended handler m).map (·.task)).countP f +
        q.pending.countP f =
      p.pending.countP f +
        ((p.ended handler m).flatMap (·.followUps)).countP f := by
  rcases move?_cases hMove with
    ⟨t, rest, rfl, hQueue, _, rfl⟩ |
    ⟨index, t, rfl, hTask, rfl⟩ |
    ⟨result, rest, rfl, hQueue, hResults, rfl⟩
  · simp [ended, pending, hQueue, List.countP_cons]
    omega
  · have hErase := countP_eraseIdx f _ _ _ hTask
    simp [ended, pending, hTask, Handled.followUps,
      List.countP_cons]
    omega
  · cases result with
    | ok tasks =>
        simp [ended, pending, collect, tasksOf, hQueue, hResults]
        omega
    | error e =>
        simp [ended, pending, collect, tasksOf, hQueue, hResults]

/- The tasks that were queued or will be, and did not start. -/
def unstarted (p : Pass S E) : List Task :=
  p.queue ++ p.results.flatMap tasksOf

/- A task counts from its start on, and waits before that. -/
theorem started_balance
    (hMove : p.move? handler limit m = some q)
    (rank : Nat) :
    q.report.started rank +
        q.unstarted.countP (·.rank == rank) =
      p.report.started rank +
        p.unstarted.countP (·.rank == rank) +
        ((p.ended handler m).flatMap (·.followUps)).countP
          (·.rank == rank) := by
  rcases move?_cases hMove with
    ⟨t, rest, rfl, hQueue, _, rfl⟩ |
    ⟨index, t, rfl, hTask, rfl⟩ |
    ⟨result, rest, rfl, hQueue, hResults, rfl⟩
  · simp [ended, unstarted, hQueue, List.countP_cons,
      Report.started_start]
    omega
  · simp [ended, unstarted, hTask, Handled.followUps]
    omega
  · cases result with
    | ok tasks =>
        simp [ended, unstarted, collect, tasksOf, hQueue, hResults]
    | error e =>
        simp [ended, unstarted, collect, tasksOf, hQueue, hResults]

/- A failure is counted once, when its result is looked at. -/
theorem failed_balance
    (hMove : p.move? handler limit m = some q) :
    q.report.failed + q.results.countP (!·.isOk) =
      p.report.failed + p.results.countP (!·.isOk) +
        (p.ended handler m).countP (·.isFailed) := by
  rcases move?_cases hMove with
    ⟨t, rest, rfl, hQueue, _, rfl⟩ |
    ⟨index, t, rfl, hTask, rfl⟩ |
    ⟨result, rest, rfl, hQueue, hResults, rfl⟩
  · simp [ended]
  · simp [ended, hTask, Handled.isFailed, List.countP_cons]
    omega
  · cases result with
    | ok tasks =>
        simp [ended, collect, hResults, Except.isOk, Except.toBool]
    | error e =>
        simp [ended, collect, hResults, Except.isOk, Except.toBool,
          Report.fail]
        omega

/- There is never more going on than the limit allows. -/
theorem running_le
    (hMove : p.move? handler limit m = some q)
    (hRoom : p.running.length ≤ limit) :
    q.running.length ≤ limit := by
  rcases move?_cases hMove with
    ⟨t, rest, rfl, _, hFew, rfl⟩ |
    ⟨index, t, rfl, _, rfl⟩ |
    ⟨result, rest, rfl, _, _, rfl⟩
  · simpa using Nat.succ_le_of_lt hFew
  · exact (List.length_eraseIdx_le _ _).trans hRoom
  · cases result <;> exact hRoom

/- What is pending was pending before, or has just come up. -/
theorem mem_pending_of_move
    (hMove : p.move? handler limit m = some q)
    {u : Task}
    (hu : u ∈ q.pending) :
    u ∈ p.pending ∨ ∃ d ∈ p.ended handler m, u ∈ d.followUps := by
  rcases move?_cases hMove with
    ⟨t, rest, rfl, hQueue, _, rfl⟩ |
    ⟨index, t, rfl, hTask, rfl⟩ |
    ⟨result, rest, rfl, hQueue, hResults, rfl⟩
  · refine .inl ?_
    simp only [pending, hQueue, List.mem_append, List.mem_cons,
      List.not_mem_nil, or_false] at hu ⊢
    tauto
  · simp only [pending, List.flatMap_append, List.flatMap_cons,
      List.flatMap_nil, List.append_nil, List.mem_append] at hu
    rcases hu with (hWaits | hStays) | hOld | hNew
    · exact .inl (by simp [pending, hWaits])
    · have hStayed := List.mem_of_mem_eraseIdx hStays
      exact .inl (by simp [pending, hStayed])
    · refine .inl ?_
      simp only [pending, List.mem_append]
      exact .inr hOld
    · refine .inr ⟨⟨t, (handler.act p.state t).1⟩, ?_, hNew⟩
      simp [ended, hTask]
  · refine .inl ?_
    cases result with
    | ok tasks =>
        simp only [pending, collect, hQueue, hResults, tasksOf,
          List.flatMap_cons, List.mem_append, List.not_mem_nil,
          false_or] at hu ⊢
        tauto
    | error e =>
        simp only [pending, collect, hQueue, hResults, tasksOf,
          List.flatMap_cons, List.mem_append, List.not_mem_nil,
          false_or] at hu ⊢
        exact hu

/- No task ends and nothing changes, or one that was pending does. -/
theorem state_of_move
    (hMove : p.move? handler limit m = some q) :
    (p.ended handler m = [] ∧ q.state = p.state) ∨
    ∃ t ∈ p.pending,
      p.ended handler m = [⟨t, (handler.act p.state t).1⟩] ∧
      q.state = (handler.act p.state t).2 := by
  rcases move?_cases hMove with
    ⟨t, rest, rfl, _, _, rfl⟩ |
    ⟨index, t, rfl, hTask, rfl⟩ |
    ⟨result, rest, rfl, _, _, rfl⟩
  · exact .inl ⟨rfl, rfl⟩
  · have hRuns : t ∈ p.running := List.mem_of_getElem? hTask
    refine .inr ⟨t, ?_, ?_, rfl⟩
    · simp [pending, hRuns]
    · simp [ended, hTask]
  · cases result <;> exact .inl ⟨rfl, rfl⟩

end Moves

------------------------------------------------------------
-- What a History Preserves
------------------------------------------------------------

namespace History

variable {able : Handler S E → Prop} {limit : Nat}
variable {p q : Pass S E} {log : List (Handled E)}

/- More handlers may do the tasks. -/
theorem mono
    {more : Handler S E → Prop}
    (hMore : ∀ handler, able handler → more handler)
    (hHistory : History able limit p log q) :
    History more limit p log q := by
  induction hHistory with
  | nil p => exact .nil p
  | cons handler m hAble hMove _ ih =>
      exact .cons handler m (hMore handler hAble) hMove ih

/- What is pending ends once, and so does what it gives rise to. -/
theorem pending_balance
    (hHistory : History able limit p log q)
    (f : Task → Bool) :
    (log.map (·.task)).countP f + q.pending.countP f =
      p.pending.countP f + (log.flatMap (·.followUps)).countP f := by
  induction hHistory with
  | nil p => simp
  | cons handler m _ hMove _ ih =>
      have hStep := Pass.pending_balance hMove f
      simp only [List.map_append, List.flatMap_append,
        List.countP_append]
      omega

/- The tasks that ended or are pending were queued, or came up. -/
theorem tasks_perm
    (hHistory : History able limit p log q) :
    (log.map (·.task) ++ q.pending).Perm
      (p.pending ++ log.flatMap (·.followUps)) := by
  rw [List.perm_iff_count]
  intro t
  have hBalance := hHistory.pending_balance (· == t)
  simpa [List.count, List.countP_append] using hBalance

/- When all is over, each task that was queued has ended once. -/
theorem handled_perm
    (hHistory : History able limit p log q)
    (hOver : q.IsOver) :
    (log.map (·.task)).Perm
      (p.pending ++ log.flatMap (·.followUps)) := by
  rcases hOver with ⟨hQueue, hRunning, hResults⟩
  have hNone : q.pending = [] := by
    simp [pending, hQueue, hRunning, hResults]
  have hTasks := hHistory.tasks_perm
  rwa [hNone, List.append_nil] at hTasks

/- When all is over, all that was pending has ended. -/
theorem exists_of_mem_pending
    (hHistory : History able limit p log q)
    (hOver : q.IsOver)
    {t : Task}
    (ht : t ∈ p.pending) :
    ∃ d ∈ log, d.task = t := by
  apply List.mem_map.mp
  rw [(hHistory.handled_perm hOver).mem_iff]
  exact List.mem_append_left _ ht

/- When all is over, all that a task gave rise to has ended. -/
theorem exists_of_mem_followUps
    (hHistory : History able limit p log q)
    (hOver : q.IsOver)
    {d : Handled E}
    (hd : d ∈ log)
    {u : Task}
    (hu : u ∈ d.followUps) :
    ∃ d' ∈ log, d'.task = u := by
  apply List.mem_map.mp
  rw [(hHistory.handled_perm hOver).mem_iff]
  exact List.mem_append_right _ (List.mem_flatMap.mpr ⟨d, hd, hu⟩)

/- The counter of a rank keeps up with the tasks of that rank. -/
theorem started_balance
    (hHistory : History able limit p log q)
    (rank : Nat) :
    q.report.started rank +
        q.unstarted.countP (·.rank == rank) =
      p.report.started rank +
        p.unstarted.countP (·.rank == rank) +
        (log.flatMap (·.followUps)).countP (·.rank == rank) := by
  induction hHistory with
  | nil p => simp
  | cons handler m _ hMove _ ih =>
      have hStep := Pass.started_balance hMove rank
      simp only [List.flatMap_append, List.countP_append]
      omega

/- The counter of failures keeps up with the failures. -/
theorem failed_balance
    (hHistory : History able limit p log q) :
    q.report.failed + q.results.countP (!·.isOk) =
      p.report.failed + p.results.countP (!·.isOk) +
        log.countP (·.isFailed) := by
  induction hHistory with
  | nil p => simp
  | cons handler m _ hMove _ ih =>
      have hStep := Pass.failed_balance hMove
      simp only [List.countP_append]
      omega

/- When all is over, the report counts all failures. -/
theorem failed_eq
    {queue : List Task}
    {state : S}
    (hHistory : History able limit (begin queue state) log q)
    (hOver : q.IsOver) :
    q.report.failed = log.countP (·.isFailed) := by
  have hFailed := hHistory.failed_balance
  rw [hOver.2.2] at hFailed
  simpa [begin, Report.zero] using hFailed

/- There is never more going on than the limit allows. -/
theorem running_le
    (hHistory : History able limit p log q)
    (hRoom : p.running.length ≤ limit) :
    q.running.length ≤ limit := by
  induction hHistory with
  | nil p => exact hRoom
  | cons handler m _ hMove _ ih =>
      exact ih (Pass.running_le hMove hRoom)

/- Each task that ended was done by one of the handlers. -/
theorem exists_handler
    (hHistory : History able limit p log q) :
    ∀ d ∈ log, ∃ handler s,
      able handler ∧ d.outcome = (handler.act s d.task).1 := by
  induction hHistory with
  | nil p => simp
  | @cons p q r log handler m hAble hMove _ ih =>
      intro d hd
      rcases List.mem_append.mp hd with hNew | hOld
      · rcases state_of_move hMove with
          ⟨hNone, _⟩ | ⟨t, _, hEnded, _⟩
        · rw [hNone] at hNew
          cases hNew
        · rw [hEnded, List.mem_singleton] at hNew
          subst hNew
          exact ⟨handler, p.state, hAble, rfl⟩
      · exact ih d hOld

/- A task gave rise only to tasks of a lower rank. -/
theorem rank_lt_of_mem_followUps
    (hHistory : History able limit p log q)
    {d : Handled E}
    (hd : d ∈ log)
    {u : Task}
    (hu : u ∈ d.followUps) :
    u.rank < d.task.rank := by
  rcases hHistory.exists_handler d hd with
    ⟨handler, s, _, hOutcome⟩
  rw [Handled.followUps, hOutcome] at hu
  cases hAct : (handler.act s d.task).1 with
  | error e =>
      rw [hAct] at hu
      cases hu
  | ok us =>
      rw [hAct] at hu
      exact handler.descends s d.task u us hAct hu

/- No page comes up that was not queued in the beginning. -/
theorem mem_parse_iff
    (hHistory : History able limit p log q)
    (address : String) :
    Task.parse address ∈ log.map (·.task) ++ q.pending ↔
      Task.parse address ∈ p.pending := by
  rw [hHistory.tasks_perm.mem_iff, List.mem_append, or_iff_left]
  intro hNew
  rcases List.mem_flatMap.mp hNew with ⟨d, hd, hu⟩
  have hRank := hHistory.rank_lt_of_mem_followUps hd hu
  have hHigh : (Task.parse address).rank = 2 := rfl
  rcases rank_cases d.task with h | h | h <;> omega

end History

------------------------------------------------------------
-- What All Tasks Keep Up
------------------------------------------------------------

/-
  What all tasks that are due keep up: an invariant of the
  state; that the tasks they give rise to are due; and that a
  task is settled from the time on at which it ends.
-/
structure Upkeep
    (able : Handler S E → Prop)
    (Inv : S → Prop)
    (Due : Task → Prop)
    (Settled : S → Task → Prop) : Prop where
  inv :
    ∀ {handler : Handler S E} {s : S} {t : Task},
      able handler → Inv s → Due t → Inv (handler.act s t).2
  due :
    ∀ {handler : Handler S E} {s : S} {t u : Task},
      able handler → Inv s → Due t →
        u ∈ tasksOf (handler.act s t).1 → Due u
  settles :
    ∀ {handler : Handler S E} {s : S} {t : Task},
      able handler → Inv s → Due t →
        Settled (handler.act s t).2 t
  keeps :
    ∀ {handler : Handler S E} {s : S} {t u : Task},
      able handler → Inv s → Due t → Due u → Settled s u →
        Settled (handler.act s t).2 u

namespace Upkeep

variable {able : Handler S E → Prop} {limit : Nat}
variable {Inv : S → Prop} {Due : Task → Prop}
variable {Settled : S → Task → Prop}
variable {p q : Pass S E} {log : List (Handled E)}

/- A move keeps up what all tasks keep up. -/
theorem move
    (hUpkeep : Upkeep able Inv Due Settled)
    {handler : Handler S E}
    (hAble : able handler)
    {m : Move}
    (hMove : p.move? handler limit m = some q)
    (hInv : Inv p.state)
    (hDue : ∀ t ∈ p.pending, Due t) :
    Inv q.state ∧
      (∀ t ∈ q.pending, Due t) ∧
      (∀ d ∈ p.ended handler m,
        Due d.task ∧ Settled q.state d.task) ∧
      ∀ u, Due u → Settled p.state u → Settled q.state u := by
  rcases state_of_move hMove with
    ⟨hNone, hState⟩ | ⟨t, ht, hEnded, hState⟩
  · rw [hState]
    refine ⟨hInv, ?_, by simp [hNone], fun u _ hu => hu⟩
    intro u hu
    rcases mem_pending_of_move hMove hu with hOld | ⟨d, hd, _⟩
    · exact hDue u hOld
    · rw [hNone] at hd
      cases hd
  · have hDueNow : Due t := hDue t ht
    rw [hState]
    refine ⟨hUpkeep.inv hAble hInv hDueNow, ?_, ?_, ?_⟩
    · intro u hu
      rcases mem_pending_of_move hMove hu with hOld | ⟨d, hd, hNew⟩
      · exact hDue u hOld
      · rw [hEnded, List.mem_singleton] at hd
        subst hd
        exact hUpkeep.due hAble hInv hDueNow hNew
    · intro d hd
      rw [hEnded, List.mem_singleton] at hd
      subst hd
      exact ⟨hDueNow, hUpkeep.settles hAble hInv hDueNow⟩
    · intro u hu hSettled
      exact hUpkeep.keeps hAble hInv hDueNow hu hSettled

/- A history keeps up what all tasks keep up. -/
theorem history
    (hUpkeep : Upkeep able Inv Due Settled)
    (hHistory : History able limit p log q)
    (hInv : Inv p.state)
    (hDue : ∀ t ∈ p.pending, Due t) :
    Inv q.state ∧
      (∀ d ∈ log, Due d.task ∧ Settled q.state d.task) ∧
      ∀ u, Due u → Settled p.state u → Settled q.state u := by
  induction hHistory with
  | nil p => exact ⟨hInv, by simp, fun u _ hu => hu⟩
  | cons handler m hAble hMove _ ih =>
      rcases hUpkeep.move hAble hMove hInv hDue with
        ⟨hInv, hDue, hEnded, hKept⟩
      rcases ih hInv hDue with ⟨hInv, hLog, hKeeps⟩
      refine ⟨hInv, ?_, ?_⟩
      · intro d hd
        rcases List.mem_append.mp hd with hNew | hOld
        · rcases hEnded d hNew with ⟨hDueNow, hSettled⟩
          exact ⟨hDueNow, hKeeps _ hDueNow hSettled⟩
        · exact hLog d hOld
      · intro u hu hSettled
        exact hKeeps u hu (hKept u hu hSettled)

end Upkeep

------------------------------------------------------------
-- Progress and Termination
------------------------------------------------------------

/- A pass that is not over goes on, whoever does its tasks. -/
theorem exists_move_of_not_isOver
    {limit : Nat}
    (hLimit : 0 < limit)
    {p : Pass S E}
    (hOpen : ¬ p.IsOver) :
    ∃ m, p.choose? limit = some m ∧
      ∀ handler, (p.move? handler limit m).isSome := by
  unfold choose?
  cases hQueue : p.queue with
  | cons t rest =>
      by_cases hRoom : p.running.length < limit
      · refine ⟨.start, by simp [hRoom], ?_⟩
        intro handler
        simp [move?, hQueue, hRoom]
      · refine ⟨.finish 0, by simp [hRoom], ?_⟩
        intro handler
        have hSome : 0 < p.running.length := by omega
        simp [move?, List.getElem?_eq_getElem hSome]
  | nil =>
      cases hResults : p.results with
      | cons result rest =>
          refine ⟨.collect, by simp, ?_⟩
          intro handler
          simp [move?, hQueue, hResults]
      | nil =>
          cases hRunning : p.running with
          | nil => exact absurd ⟨hQueue, hRunning, hResults⟩ hOpen
          | cons t rest =>
              refine ⟨.finish 0, by simp, ?_⟩
              intro handler
              simp [move?, hRunning]

/- The measure of passes cannot fall forever. -/
theorem wellFounded_measure :
    WellFounded fun q p : Pass S E =>
      Prod.Lex (· < ·) (Prod.Lex (· < ·) (Prod.Lex (· < ·) (· < ·)))
        q.measure p.measure :=
  InvImage.wf measure
    (wellFounded_lt.prod_lex
      (wellFounded_lt.prod_lex
        (wellFounded_lt.prod_lex wellFounded_lt)))

/- No pass goes on forever, whoever does its tasks. -/
theorem no_endless_moves
    (limit : Nat)
    (chain : Nat → Pass S E) :
    ¬ ∀ n, ∃ handler m,
      (chain n).move? handler limit m = some (chain (n + 1)) := by
  intro hChain
  have hNone :=
    wellFounded_iff_isEmpty_descending_chain.mp
      (wellFounded_measure (S := S) (E := E))
  apply hNone.false
  refine ⟨chain, ?_⟩
  intro n
  rcases hChain n with ⟨handler, m, hMove⟩
  exact move_lt hMove

/- Running a pass makes moves until all is over. -/
theorem run_isOver
    {able : Handler S E → Prop}
    {handler : Handler S E}
    (hAble : able handler)
    {limit : Nat}
    (hLimit : 0 < limit)
    (p : Pass S E) :
    (p.run handler limit).IsOver ∧
      ∃ log, History able limit p log (p.run handler limit) := by
  induction p using run.induct handler limit with
  | case1 p hNone =>
      rw [run]
      split
      · refine ⟨?_, [], .nil p⟩
        by_contra hOpen
        rcases exists_move_of_not_isOver hLimit hOpen with
          ⟨m, hChoose, hMove⟩
        have hSome := hMove handler
        simp only [next?, hChoose, Option.bind_some] at hNone
        simp [hNone] at hSome
      · rename_i q hSome
        rw [hNone] at hSome
        cases hSome
  | case2 p q hSome ih =>
      rw [run]
      split
      · rename_i hNone
        rw [hNone] at hSome
        cases hSome
      · rename_i q' hSome'
        have hSame : q' = q := by
          rw [hSome] at hSome'
          exact (Option.some.inj hSome').symm
        subst hSame
        rcases ih with ⟨hOver, log, hRest⟩
        rcases Option.bind_eq_some_iff.mp hSome with ⟨m, _, hMove⟩
        exact ⟨hOver, _, .cons handler m hAble hMove hRest⟩

/- Make some moves at most. -/
def runFor (handler : Handler S E) (limit : Nat) :
    Nat → Pass S E → Pass S E
  | 0, p => p
  | n + 1, p =>
      match p.next? handler limit with
      | none => p
      | some q => runFor handler limit n q

/- After some moves of a run the rest of it is the same run. -/
theorem run_runFor
    (handler : Handler S E)
    (limit : Nat)
    (n : Nat)
    (p : Pass S E) :
    (runFor handler limit n p).run handler limit =
      p.run handler limit := by
  induction n generalizing p with
  | zero => rfl
  | succ n ih =>
      rw [runFor]
      split
      · rfl
      · rename_i q hNext
        rw [ih, run.eq_def handler limit p]
        split
        · rename_i hNone
          rw [hNext] at hNone
          cases hNone
        · rename_i r hSome
          rw [hNext] at hSome
          rw [Option.some.inj hSome]

/- A run that is over after some moves comes to where they lead. -/
theorem run_eq_runFor
    {handler : Handler S E}
    {limit : Nat}
    {p : Pass S E}
    (n : Nat)
    (hOver : (runFor handler limit n p).IsOver) :
    p.run handler limit = runFor handler limit n p := by
  rw [← run_runFor handler limit n p]
  generalize runFor handler limit n p = q at hOver
  rcases hOver with ⟨hQueue, hRunning, hResults⟩
  have hNone : q.next? handler limit = none := by
    simp [next?, choose?, hQueue, hRunning, hResults]
  rw [run]
  split
  · rfl
  · rename_i r hSome
    rw [hNone] at hSome
    cases hSome

end Pass

------------------------------------------------------------
-- Batches
------------------------------------------------------------

/- A batch with a limit that can be kept to is a run of a pass. -/
theorem batch_of_le
    {E : Type}
    (s : Services E)
    {concurrency : Nat}
    (hLimit : limitOf concurrency ≤ maxLimit)
    (h : Holdings)
    (addresses : List String) :
    batch s concurrency h addresses =
      (some ((Pass.begin (newPages h.store.hashes addresses) h).run
          (handler s) (limitOf concurrency)).report,
        ((Pass.begin (newPages h.store.hashes addresses) h).run
          (handler s) (limitOf concurrency)).state) := by
  rw [batch, if_neg (Nat.not_lt.mpr hLimit)]

/- At least one task may run at a time. -/
theorem limitOf_pos (concurrency : Nat) : 0 < limitOf concurrency :=
  Nat.lt_of_lt_of_le Nat.zero_lt_one (Nat.le_max_left 1 concurrency)

/-
  A batch with a limit that can be kept to is a pass in which the
  handler of the harvest does all tasks, and it is over.
-/
theorem exists_history_of_batch
    {E : Type}
    (s : Services E)
    {concurrency : Nat}
    (hLimit : limitOf concurrency ≤ maxLimit)
    (h : Holdings)
    (addresses : List String) :
    ∃ (log : List (Handled (Error E))) (p : Pass Holdings (Error E)),
      Pass.History (· = handler s) (limitOf concurrency)
        (Pass.begin (newPages h.store.hashes addresses) h) log p ∧
      p.IsOver ∧
      batch s concurrency h addresses = (some p.report, p.state) := by
  let start : Pass Holdings (Error E) :=
    .begin (newPages h.store.hashes addresses) h
  have hRun :
      (start.run (handler s) (limitOf concurrency)).IsOver ∧
        ∃ log, Pass.History (· = handler s) (limitOf concurrency)
          start log (start.run (handler s) (limitOf concurrency)) :=
    Pass.run_isOver (by rfl) (limitOf_pos concurrency) start
  rcases hRun with ⟨hOver, log, hHistory⟩
  exact ⟨log, _, hHistory, hOver, batch_of_le s hLimit h addresses⟩

/- Nothing is done in a batch with any other limit. -/
theorem batch_of_lt
    {E : Type}
    (s : Services E)
    {concurrency : Nat}
    (hLimit : maxLimit < limitOf concurrency)
    (h : Holdings)
    (addresses : List String) :
    batch s concurrency h addresses = (none, h) := by
  rw [batch, if_pos hLimit]

/- The page is listed, and it is not stored. -/
def IsNew (stored addresses : List String) (address : String) : Prop :=
  address ∈ addresses ∧ Md5.hex address ∉ stored

/- A batch begins with the listed pages that are not stored. -/
theorem mem_pending_begin_iff
    {S E : Type}
    {stored addresses : List String}
    {state : S}
    {t : Task} :
    t ∈ (Pass.begin (newPages stored addresses) state :
        Pass S E).pending ↔
      ∃ a, IsNew stored addresses a ∧ t = .parse a := by
  simp [Pass.begin, Pass.pending, newPages, IsNew, eq_comm (a := t)]

end Harvest

end Gleaner
