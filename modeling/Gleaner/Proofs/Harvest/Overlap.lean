import Gleaner.Proofs.Harvest.History
import Gleaner.Proofs.Harvest.Reading
import Gleaner.Proofs.Harvest.Shelf

/-
  Downloads that overlap with other tasks, and the handlers
  that may take part in one harvest.

  Main declarations:
    * `Harvest.overlapping`
    * `Harvest.overlapping_shelf`
    * `Harvest.Fetches`
    * `Harvest.exists_save_of_extract`
    * `Harvest.Serves`
    * `Harvest.handler_serves`
-/

namespace Gleaner

namespace Harvest

variable {E : Type}

------------------------------------------------------------
-- Overlapping Downloads
------------------------------------------------------------

/-
  Do a task of a harvest.  A download looks for its file on the
  shelf that `look` finds, which may be one of an earlier time.
-/
def handleSince (s : Services E) (look : Holdings → Shelf)
    (h : Holdings) : Task → Except (Error E) (List Task) × Holdings
  | .parse address => handle s h (.parse address)
  | .save e => handle s h (.save e)
  | .download m =>
      let (delivery, shelf) :=
        Shelf.deliverSince s.system h.shelf (look h) s.media m
      let (result, h) := conclude h m delivery shelf
      (result.map fun _ => [], h)

/- A download gives rise to nothing. -/
theorem tasksOf_download
    (s : Services E)
    (look : Holdings → Shelf)
    (h : Holdings)
    (m : MediaFile) :
    Pass.tasksOf (handleSince s look h (.download m)).1 = [] := by
  simp only [handleSince]
  cases (conclude h m
    (Shelf.deliverSince s.system h.shelf (look h) s.media m).1
    (Shelf.deliverSince s.system h.shelf (look h) s.media m).2).1 <;>
    rfl

/- The handler of a harvest whose downloads overlap. -/
def overlapping (s : Services E) (look : Holdings → Shelf) :
    Handler Holdings (Error E) where
  act := handleSince s look
  descends := by
    intro h t u us hOk hMem
    cases t with
    | parse address => exact rank_lt_of_mem_handle s h _ u us hOk hMem
    | save e => exact rank_lt_of_mem_handle s h _ u us hOk hMem
    | download m =>
        have hNone := tasksOf_download s look h m
        rw [hOk] at hNone
        simp only [Pass.tasksOf] at hNone
        rw [hNone] at hMem
        cases hMem

/- Downloads that look at the last moment do not overlap. -/
theorem overlapping_shelf (s : Services E) :
    overlapping s (·.shelf) = handler s := by
  have hSame : handleSince s (·.shelf) = handle s := by
    funext h t
    cases t with
    | parse address => rfl
    | save e => rfl
    | download m => rfl
  simp only [overlapping, handler, hSame]

------------------------------------------------------------
-- Effects of Tasks
------------------------------------------------------------

section Effects

variable (s : Services E) (look : Holdings → Shelf) (h : Holdings)

@[simp] theorem state_act_parse (address : String) :
    ((overlapping s look).act h (.parse address)).2 = h :=
  rfl

/- A page gives rise to the save of what is read from it. -/
theorem mem_tasksOf_act_parse
    {address : String}
    {u : Task} :
    u ∈ Pass.tasksOf
        ((overlapping s look).act h (.parse address)).1 ↔
      ∃ e : Extraction,
        extract s address = .ok (some e) ∧ u = .save e := by
  simp only [overlapping, handleSince, handle]
  cases extract s address with
  | error e => simp [Except.map, Pass.tasksOf]
  | ok found =>
      cases found with
      | none => simp [Except.map, Pass.tasksOf]
      | some e => simp [Except.map, Pass.tasksOf]

@[simp] theorem tasksOf_act_save (e : Extraction) :
    Pass.tasksOf ((overlapping s look).act h (.save e)).1 =
      e.record.mediaFiles.map Task.download :=
  rfl

@[simp] theorem tasksOf_act_download (m : MediaFile) :
    Pass.tasksOf ((overlapping s look).act h (.download m)).1 = [] :=
  tasksOf_download s look h m

@[simp] theorem store_act_save (e : Extraction) :
    ((overlapping s look).act h (.save e)).2.store =
      h.store.save e.record := by
  simp only [overlapping, handleSince, handle, save]
  cases s.publish e.record <;> rfl

@[simp] theorem shelf_act_save (e : Extraction) :
    ((overlapping s look).act h (.save e)).2.shelf = h.shelf := by
  simp only [overlapping, handleSince, handle, save]
  cases s.publish e.record <;> rfl

@[simp] theorem store_act_download (m : MediaFile) :
    ((overlapping s look).act h (.download m)).2.store = h.store :=
  rfl

@[simp] theorem shelf_act_download (m : MediaFile) :
    ((overlapping s look).act h (.download m)).2.shelf =
      (Shelf.deliverSince s.system h.shelf (look h) s.media m).2 :=
  rfl

end Effects

------------------------------------------------------------
-- Handlers of One Harvest
------------------------------------------------------------

/-
  A handler does tasks with services of some kind, wherever it
  looks for files.
-/
def Fetches (Kind : Services E → Prop)
    (handler : Handler Holdings (Error E)) : Prop :=
  ∃ (s : Services E) (look : Holdings → Shelf),
    Kind s ∧ handler = overlapping s look

/-
  When a batch is over, what can be read from a new page has come
  up from it, and its save has ended.
-/
theorem exists_save_of_extract
    {base : Services E}
    {h : Holdings}
    {addresses : List String}
    {limit : Nat}
    {log : List (Handled (Error E))}
    {p : Pass Holdings (Error E)}
    (hPass :
      Pass.History (Fetches (base.Agrees (IsNew h.store.hashes addresses)))
        limit (Pass.begin (newPages h.store.hashes addresses) h) log p)
    (hOver : p.IsOver)
    {address : String}
    (hNew : IsNew h.store.hashes addresses address)
    {f : Extraction}
    (hRead : extract base address = .ok (some f)) :
    ∃ m : Moment,
      (∃ d ∈ log, d.task = .parse address ∧
        Task.save (f.dated m) ∈ d.followUps) ∧
      ∃ d ∈ log, d.task = .save (f.dated m) := by
  have hQueued : Task.parse address ∈
      (Pass.begin (newPages h.store.hashes addresses) h :
        Pass Holdings (Error E)).pending :=
    mem_pending_begin_iff.mpr ⟨address, hNew, rfl⟩
  rcases hPass.exists_of_mem_pending hOver hQueued with ⟨d, hd, hTask⟩
  rcases hPass.exists_handler d hd with
    ⟨_, _, ⟨s, look, hAgrees, rfl⟩, hOutcome⟩
  have hSave : Task.save (f.dated s.now) ∈ d.followUps := by
    rw [Handled.followUps, hOutcome, hTask, mem_tasksOf_act_parse]
    exact ⟨_, (extract_eq_some_of_agrees hAgrees hNew).mpr
      ⟨f, hRead, rfl⟩, rfl⟩
  exact ⟨s.now, ⟨d, hd, hTask, hSave⟩,
    hPass.exists_of_mem_followUps hOver hd hSave⟩

/-
  A handler may do tasks of a harvest that began with a shelf: it
  has services of some kind, and looks for files on a shelf that
  was there since.
-/
def Serves (Kind : Services E → Prop) (first : Shelf)
    (handler : Handler Holdings (Error E)) : Prop :=
  ∃ (s : Services E) (look : Holdings → Shelf),
    Kind s ∧
    (∀ h : Holdings, first.Within h.shelf →
      first.Within (look h) ∧ (look h).Within h.shelf) ∧
    handler = overlapping s look

/- A handler of a harvest does tasks with its services. -/
theorem fetches_of_serves
    {Kind : Services E → Prop}
    {first : Shelf}
    {handler : Handler Holdings (Error E)}
    (hServes : Serves Kind first handler) :
    Fetches Kind handler := by
  rcases hServes with ⟨s, look, hKind, _, hSame⟩
  exact ⟨s, look, hKind, hSame⟩

/- Services of one kind may all be of another. -/
theorem Serves.mono
    {Kind Other : Services E → Prop}
    (hKinds : ∀ s, Kind s → Other s)
    {first : Shelf}
    {handler : Handler Holdings (Error E)}
    (hServes : Serves Kind first handler) :
    Serves Other first handler := by
  rcases hServes with ⟨s, look, hKind, hLook, hSame⟩
  exact ⟨s, look, hKinds s hKind, hLook, hSame⟩

/- The handler of a harvest may do all tasks. -/
theorem handler_serves
    {Kind : Services E → Prop}
    {s : Services E}
    (hKind : Kind s)
    (first : Shelf) :
    Serves Kind first (handler s) := by
  refine ⟨s, (·.shelf), hKind, ?_, (overlapping_shelf s).symm⟩
  intro h hFirst
  exact ⟨hFirst, fun _ hName => hName⟩

end Harvest

end Gleaner
