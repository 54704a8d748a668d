import Gleaner.Harvest.Task

/-
  Passes: tasks are started in the order of a queue, up to a
  limit at a time, end in any order, and put the tasks that they
  give rise to at the end of the queue.

  Key definitions include:
    * `Harvest.Report`
    * `Harvest.Handler`
    * `Harvest.Pass`
    * `Harvest.Pass.Move`
    * `Harvest.Pass.move?`
    * `Harvest.Pass.Reaches`
    * `Harvest.Pass.choose?`
    * `Harvest.Pass.run`
    * `Harvest.maxLimit`
    * `Harvest.batch`
-/

namespace Gleaner

namespace Harvest

------------------------------------------------------------
-- Reports
------------------------------------------------------------

/- How many tasks of each kind were started, and how many failed. -/
structure Report where
  pages : Nat
  saved : Nat
  downloads : Nat
  failed : Nat
deriving DecidableEq, Repr

namespace Report

/- Nothing was started. -/
def zero : Report :=
  ⟨0, 0, 0, 0⟩

/- One more task is started. -/
def start (r : Report) : Task → Report
  | .parse _ => { r with pages := r.pages + 1 }
  | .save _ => { r with saved := r.saved + 1 }
  | .download _ => { r with downloads := r.downloads + 1 }

/- One more task has failed. -/
def fail (r : Report) : Report :=
  { r with failed := r.failed + 1 }

end Report

------------------------------------------------------------
-- Handlers
------------------------------------------------------------

/-
  Something that does tasks on a state.  The tasks that a task
  gives rise to have a lower rank, so that no task comes back.
-/
structure Handler (S E : Type) where
  act : S → Task → Except E (List Task) × S
  descends :
    ∀ (s : S) (t u : Task) (us : List Task),
      (act s t).1 = .ok us → u ∈ us → u.rank < t.rank

/- The handler of a harvest. -/
def handler {E : Type} (s : Services E) :
    Handler Holdings (Error E) where
  act := handle s
  descends := rank_lt_of_mem_handle s

------------------------------------------------------------
-- Passes
------------------------------------------------------------

/-
  A pass under way: the tasks that wait, the tasks that run in
  the order in which they were started, the results that nobody
  has looked at in the order in which they came in, the report,
  and the state that tasks work on.
-/
structure Pass (S E : Type) where
  queue : List Task
  running : List Task
  results : List (Except E (List Task))
  report : Report
  state : S

namespace Pass

variable {S E : Type}

/- A pass that is about to start. -/
def begin (queue : List Task) (state : S) : Pass S E :=
  ⟨queue, [], [], Report.zero, state⟩

/-
  What can happen: the first task that waits is started, a task
  that runs ends, or the first result is looked at.
-/
inductive Move
  | start
  | finish (index : Nat)
  | collect
deriving DecidableEq, Repr

/- Look at a result: a failure is counted, or tasks are added. -/
def collect (p : Pass S E) : Except E (List Task) → Pass S E
  | .ok tasks => { p with queue := p.queue ++ tasks }
  | .error _ => { p with report := p.report.fail }

/-
  Make a move, if it can be made.  A task is started only while
  fewer than `limit` run, and results are looked at only while
  no task waits.
-/
def move? (handler : Handler S E) (limit : Nat) (p : Pass S E) :
    Move → Option (Pass S E)
  | .start =>
      match p.queue with
      | [] => none
      | t :: rest =>
          if p.running.length < limit then
            some { p with
              queue := rest
              running := p.running ++ [t]
              report := p.report.start t }
          else none
  | .finish index =>
      match p.running[index]? with
      | none => none
      | some t =>
          let done := handler.act p.state t
          some { p with
            running := p.running.eraseIdx index
            results := p.results ++ [done.1]
            state := done.2 }
  | .collect =>
      match p.queue, p.results with
      | [], result :: rest =>
          some (collect { p with results := rest } result)
      | _, _ => none

/- A pass comes about from another by moves. -/
inductive Reaches (handler : Handler S E) (limit : Nat) :
    Pass S E → Pass S E → Prop
  | refl (p : Pass S E) : Reaches handler limit p p
  | step {p q r : Pass S E} (m : Move)
      (hMove : p.move? handler limit m = some q)
      (hRest : Reaches handler limit q r) : Reaches handler limit p r

/- Nothing waits, nothing runs, and no result is left. -/
def IsOver (p : Pass S E) : Prop :=
  p.queue = [] ∧ p.running = [] ∧ p.results = []

instance (p : Pass S E) : Decidable p.IsOver :=
  match p with
  | ⟨[], [], [], _, _⟩ => .isTrue ⟨rfl, rfl, rfl⟩
  | ⟨_ :: _, _, _, _, _⟩ => .isFalse fun h => nomatch h.1
  | ⟨_, _ :: _, _, _, _⟩ => .isFalse fun h => nomatch h.2.1
  | ⟨_, _, _ :: _, _, _⟩ => .isFalse fun h => nomatch h.2.2

------------------------------------------------------------
-- Progress
------------------------------------------------------------

/- The tasks that a result gives rise to. -/
def tasksOf : Except E (List Task) → List Task
  | .ok tasks => tasks
  | .error _ => []

/- All tasks that have not ended. -/
def pending (p : Pass S E) : List Task :=
  p.queue ++ p.running ++ p.results.flatMap tasksOf

/- The number of tasks of a rank that have not ended. -/
def pendingAt (p : Pass S E) (rank : Nat) : Nat :=
  p.pending.countP (·.rank == rank)

/- The moves that a result still takes. -/
def resultWeight (result : Except E (List Task)) : Nat :=
  1 + 3 * (tasksOf result).length

/- The moves that are left if no task gives rise to another. -/
def weight (p : Pass S E) : Nat :=
  3 * p.queue.length + 2 * p.running.length +
    p.results.foldr (fun result n => resultWeight result + n) 0

/-
  What every move brings down: the tasks of the highest ranks
  come first, and the moves that are left come last.
-/
def measure (p : Pass S E) : Nat × Nat × Nat × Nat :=
  (p.pendingAt 2, p.pendingAt 1, p.pendingAt 0, p.weight)

/- Taking out a task leaves one less of its rank. -/
theorem countP_eraseIdx
    (f : Task → Bool) :
    ∀ (ts : List Task) (index : Nat) (t : Task),
      ts[index]? = some t →
        (ts.eraseIdx index).countP f + (if f t then 1 else 0) =
          ts.countP f
  | [], _, _, h => by simp at h
  | u :: us, 0, t, h => by
      simp only [List.getElem?_cons_zero, Option.some.injEq] at h
      subst h
      simp [List.countP_cons]
  | u :: us, index + 1, t, h => by
      simp only [List.getElem?_cons_succ] at h
      have ih := countP_eraseIdx f us index t h
      simp only [List.eraseIdx_cons_succ, List.countP_cons]
      omega

/- Starting a task takes one move and ends no task. -/
theorem start_progress
    {handler : Handler S E}
    {limit : Nat}
    {p q : Pass S E}
    (hMove : p.move? handler limit .start = some q) :
    (∀ r, q.pendingAt r = p.pendingAt r) ∧ q.weight < p.weight := by
  cases hQueue : p.queue with
  | nil =>
      simp [move?, hQueue] at hMove
  | cons t rest =>
      simp only [move?, hQueue] at hMove
      split at hMove
      · simp only [Option.some.injEq] at hMove
        subst hMove
        constructor
        · intro r
          simp [pendingAt, pending, hQueue, List.countP_cons]
          omega
        · simp [weight, hQueue]
          omega
      · cases hMove

/- The end of a task leaves one less of its rank and above. -/
theorem finish_progress
    {handler : Handler S E}
    {limit index : Nat}
    {p q : Pass S E}
    (hMove : p.move? handler limit (.finish index) = some q) :
    ∃ t : Task,
      q.pendingAt t.rank < p.pendingAt t.rank ∧
        ∀ r, t.rank < r → q.pendingAt r = p.pendingAt r := by
  simp only [move?] at hMove
  cases hTask : p.running[index]? with
  | none =>
      rw [hTask] at hMove
      cases hMove
  | some t =>
      rw [hTask] at hMove
      simp only [Option.some.injEq] at hMove
      subst hMove
      have hErase := fun f => countP_eraseIdx f _ _ _ hTask
      have hNew :
          ∀ r, t.rank ≤ r →
            (tasksOf (handler.act p.state t).1).countP
              (·.rank == r) = 0 := by
        intro r hr
        rw [List.countP_eq_zero]
        intro u hu
        cases hAct : (handler.act p.state t).1 with
        | error e =>
            rw [hAct] at hu
            cases hu
        | ok us =>
            rw [hAct] at hu
            have := handler.descends p.state t u us hAct hu
            simp only [beq_iff_eq]
            omega
      refine ⟨t, ?_, ?_⟩
      · have h₁ := hErase (·.rank == t.rank)
        have h₂ := hNew t.rank (Nat.le_refl _)
        simp only [beq_self_eq_true, if_true] at h₁
        simp only [pendingAt, pending, List.countP_append,
          List.flatMap_append, List.flatMap_cons, List.flatMap_nil,
          List.append_nil]
        omega
      · intro r hr
        have h₁ := hErase (·.rank == r)
        have h₂ := hNew r (Nat.le_of_lt hr)
        have hNe : (t.rank == r) = false := by
          simp only [beq_eq_false_iff_ne]
          omega
        simp only [hNe] at h₁
        simp only [pendingAt, pending, List.countP_append,
          List.flatMap_append, List.flatMap_cons, List.flatMap_nil,
          List.append_nil]
        simp at h₁
        omega

/- Looking at a result takes one move and ends no task. -/
theorem collect_progress
    {handler : Handler S E}
    {limit : Nat}
    {p q : Pass S E}
    (hMove : p.move? handler limit .collect = some q) :
    (∀ r, q.pendingAt r = p.pendingAt r) ∧ q.weight < p.weight := by
  simp only [move?] at hMove
  cases hQueue : p.queue with
  | cons t rest =>
      rw [hQueue] at hMove
      cases hMove
  | nil =>
      cases hResults : p.results with
      | nil =>
          rw [hQueue, hResults] at hMove
          cases hMove
      | cons result rest =>
          rw [hQueue, hResults] at hMove
          simp only [Option.some.injEq] at hMove
          subst hMove
          cases result with
          | ok tasks =>
              constructor
              · intro r
                simp [collect, pendingAt, pending, hQueue, hResults,
                  tasksOf]
                omega
              · simp [collect, weight, hQueue, hResults, resultWeight,
                  tasksOf]
                omega
          | error e =>
              constructor
              · intro r
                simp [collect, pendingAt, pending, hQueue, hResults,
                  tasksOf]
              · simp [collect, weight, hQueue, hResults, resultWeight,
                  tasksOf]

/- Tasks have three ranks. -/
theorem rank_cases (t : Task) :
    t.rank = 2 ∨ t.rank = 1 ∨ t.rank = 0 := by
  cases t
  · exact .inl rfl
  · exact .inr (.inl rfl)
  · exact .inr (.inr rfl)

/- Every move brings the measure down. -/
theorem move_lt
    {handler : Handler S E}
    {limit : Nat}
    {p q : Pass S E}
    {m : Move}
    (hMove : p.move? handler limit m = some q) :
    Prod.Lex (· < ·) (Prod.Lex (· < ·) (Prod.Lex (· < ·) (· < ·)))
      q.measure p.measure := by
  have hSame :
      (∀ r, q.pendingAt r = p.pendingAt r) ∧ q.weight < p.weight →
        Prod.Lex (· < ·)
          (Prod.Lex (· < ·) (Prod.Lex (· < ·) (· < ·)))
          q.measure p.measure := by
    rintro ⟨hCount, hWeight⟩
    unfold measure
    rw [hCount 2, hCount 1, hCount 0]
    exact .right _ (.right _ (.right _ hWeight))
  cases m with
  | start => exact hSame (start_progress hMove)
  | collect => exact hSame (collect_progress hMove)
  | finish index =>
      rcases finish_progress hMove with ⟨t, hLess, hAbove⟩
      unfold measure
      rcases rank_cases t with h | h | h
      · rw [h] at hLess
        exact .left _ _ hLess
      · rw [h] at hLess hAbove
        rw [hAbove 2 (by decide)]
        exact .right _ (.left _ _ hLess)
      · rw [h] at hLess hAbove
        rw [hAbove 2 (by decide), hAbove 1 (by decide)]
        exact .right _ (.right _ (.left _ _ hLess))

------------------------------------------------------------
-- Running
------------------------------------------------------------

/-
  The move to make next: tasks are started as long as that can
  be done, and the task that was started first ends first.
-/
def choose? (limit : Nat) (p : Pass S E) : Option Move :=
  if p.queue.isEmpty then
    if !p.results.isEmpty then some .collect
    else if !p.running.isEmpty then some (.finish 0)
    else none
  else if p.running.length < limit then some .start
  else some (.finish 0)

/- The pass after the move that is made next. -/
def next? (handler : Handler S E) (limit : Nat) (p : Pass S E) :
    Option (Pass S E) :=
  (p.choose? limit).bind (p.move? handler limit)

/- The next move brings the measure down. -/
theorem next_lt
    {handler : Handler S E}
    {limit : Nat}
    {p q : Pass S E}
    (hNext : p.next? handler limit = some q) :
    Prod.Lex (· < ·) (Prod.Lex (· < ·) (Prod.Lex (· < ·) (· < ·)))
      q.measure p.measure := by
  unfold next? at hNext
  cases hMove : p.choose? limit with
  | none =>
      rw [hMove] at hNext
      cases hNext
  | some m =>
      rw [hMove] at hNext
      exact move_lt hNext

/- Make moves until none can be made. -/
def run (handler : Handler S E) (limit : Nat) (p : Pass S E) :
    Pass S E :=
  match _ : p.next? handler limit with
  | none => p
  | some q => run handler limit q
termination_by p.measure
decreasing_by exact next_lt (by assumption)

end Pass

------------------------------------------------------------
-- Batches
------------------------------------------------------------

/- The tasks for those addresses whose pages are not stored. -/
def newPages (stored : List String) (addresses : List String) :
    List Task :=
  (addresses.filter fun a => !stored.contains (Md5.hex a)).map
    Task.parse

/- At least one task runs at a time. -/
def limitOf (concurrency : Nat) : Nat :=
  max 1 concurrency

/- The highest limit that can be kept to. -/
def maxLimit : Nat := Nat.pow 2 61 - 1

/-
  Harvest the pages at some addresses that are not stored yet.  A
  batch with a limit that cannot be kept to is broken off before
  any task is started, and there is no report.
-/
def batch {E : Type}
    (s : Services E)
    (concurrency : Nat)
    (h : Holdings)
    (addresses : List String) : Option Report × Holdings :=
  let start := Pass.begin (newPages h.store.hashes addresses) h
  if maxLimit < limitOf concurrency then (none, h)
  else
    let final := start.run (handler s) (limitOf concurrency)
    (some final.report, final.state)

end Harvest

end Gleaner
