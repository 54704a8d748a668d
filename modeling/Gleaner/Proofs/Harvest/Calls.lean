import Gleaner.Proofs.Harvest.Ledger

/-
  Calls one after the other: tasks that are done on their own,
  and batches.  What a batch saves is usable; a task that is done
  on its own saves what it is given.

  Main declarations:
    * `Harvest.Calls`
    * `Harvest.Calls.store_eq`
    * `Harvest.Calls.valid_or_given`
    * `Harvest.valid_saved_iff`
-/

namespace Gleaner

namespace Harvest

variable {E : Type}

------------------------------------------------------------
-- Calls
------------------------------------------------------------

/-
  Holdings come about from others by calls.  `given` holds the
  tasks that were done on their own, and the log all tasks that
  ended, those of the batches included.
-/
inductive Calls :
    Holdings → List (Handled (Error E)) → List (Handled (Error E)) →
      Holdings → Prop
  | nil (h : Holdings) : Calls h [] [] h
  | task {h final : Holdings} {given log : List (Handled (Error E))}
      (handler : Handler Holdings (Error E))
      (t : Task)
      (hStores : handler.Stores)
      (hRest : Calls (handler.act h t).2 given log final) :
      Calls h (⟨t, (handler.act h t).1⟩ :: given)
        (⟨t, (handler.act h t).1⟩ :: log) final
  | batch {h final : Holdings}
      {given log first : List (Handled (Error E))}
      {p : Pass Holdings (Error E)}
      (concurrency : Nat)
      (addresses : List String)
      (hPass :
        Pass.History Handler.Stores (limitOf concurrency)
          (Pass.begin (newPages h.store.hashes addresses) h) first p)
      (hOver : p.IsOver)
      (hRest : Calls p.state given log final) :
      Calls h given (first ++ log) final

/- What a batch saves can be used as it is. -/
theorem valid_of_mem_savedIn
    {limit : Nat}
    {h : Holdings}
    {addresses : List String}
    {log : List (Handled (Error E))}
    {p : Pass Holdings (Error E)}
    (hPass :
      Pass.History Handler.Stores limit
        (Pass.begin (newPages h.store.hashes addresses) h) log p)
    {e : Extraction}
    (he : e ∈ savedIn log) :
    e.valid = true := by
  rcases exists_cameFrom_of_mem_savedIn hPass he with ⟨_, _, hCame⟩
  rcases hCame.exists_extract hPass with ⟨_, hRead⟩
  exact valid_of_extract hRead

namespace Calls

variable {h final : Holdings}
variable {given log : List (Handled (Error E))}

/- Calls store what is saved in their log, and nothing else. -/
theorem store_eq
    (hCalls : Calls h given log final) :
    final.store = filed h.store log := by
  induction hCalls with
  | nil h => rfl
  | task handler t hStores _ ih =>
      rw [ih, hStores.store, ← filed_append, List.singleton_append]
  | batch _ _ hPass _ _ ih =>
      rw [ih, store_of_history hPass, ← filed_append]
      rfl

/- The log holds the tasks that were done on their own. -/
theorem given_sublist
    (hCalls : Calls h given log final) :
    given.Sublist log := by
  induction hCalls with
  | nil h => exact .slnil
  | task _ _ _ _ ih => exact ih.cons_cons _
  | batch _ _ _ _ _ ih =>
      exact ih.trans (List.sublist_append_right _ _)

/- What is saved is usable, or was saved on its own. -/
theorem valid_or_given
    (hCalls : Calls h given log final)
    {e : Extraction}
    (he : e ∈ savedIn log) :
    e.valid = true ∨ e ∈ savedIn given := by
  induction hCalls with
  | nil h => cases he
  | @task h final given log handler t _ _ ih =>
      rw [← List.singleton_append, savedIn, List.filterMap_append,
        List.mem_append] at he ⊢
      rcases he with hFirst | hRest
      · exact .inr (.inl hFirst)
      · exact (ih hRest).imp_right .inr
  | batch _ _ hPass _ _ ih =>
      rw [savedIn, List.filterMap_append, List.mem_append] at he
      rcases he with hFirst | hRest
      · exact .inl (valid_of_mem_savedIn hPass hFirst)
      · exact ih hRest

end Calls

------------------------------------------------------------
-- Usable Records
------------------------------------------------------------

/-
  After any calls on an empty store, nothing but usable records
  has been saved exactly if no other was saved on its own; and
  what is stored for a page is one record that was saved, which
  is usable or was saved on its own.
-/
theorem valid_saved_iff
    {h final : Holdings}
    {given log : List (Handled (Error E))}
    (hEmpty : h.store = Store.empty)
    (hCalls : Calls h given log final) :
    ((∀ e ∈ savedIn log, e.valid = true) ↔
        ∀ e ∈ savedIn given, e.valid = true) ∧
      ∀ hash ∈ final.store.hashes, ∃ e ∈ savedIn log,
        e.record.pageHash = hash ∧
        final.store.under hash = Store.empty.save e.record ∧
        (e.valid = true ∨ e ∈ savedIn given) := by
  refine ⟨⟨?_, ?_⟩, ?_⟩
  · intro hAll e he
    exact hAll e ((hCalls.given_sublist.filterMap _).subset he)
  · intro hGiven e he
    rcases hCalls.valid_or_given he with hValid | hDirect
    · exact hValid
    · exact hGiven e hDirect
  · intro hash hStored
    rw [hCalls.store_eq, hEmpty] at hStored ⊢
    rcases mem_hashes_filed_iff.mp hStored with hOld | ⟨e, he, rfl⟩
    · cases hOld
    · rcases exists_under_filed .empty he with ⟨f, hf, hSame, hUnder⟩
      exact ⟨f, hf, hSame, hUnder, hCalls.valid_or_given hf⟩

/- A record with one picture. -/
def sampleExtraction : Extraction where
  record :=
    { pageUrl := "a"
      template := "common-html"
      cover := ["p"]
      title := ""
      price := []
      currency := ""
      description := [.text "d"]
      specification := []
      goods := []
      extractedAt := ⟨⟨1970, 1, 1⟩, 0, 0, 0, 0⟩ }
  valid := true

/- A usable record is saved on its own, and then pages are read. -/
theorem valid_saved_iff_sample :
    ∃ (given log : List (Handled (Error Unit))) (final : Holdings),
      Calls .empty given log final ∧
      sampleExtraction ∈ savedIn given ∧
      (∃ d ∈ log, d.task = .parse "http://[::1]/1") ∧
      ∀ e ∈ savedIn log, e.valid = true := by
  have hStores := handler_stores sampleServices
  let held :=
    ((handler sampleServices).act .empty (.save sampleExtraction)).2
  rcases
      Pass.run_isOver hStores (limitOf_pos 1)
        (Pass.begin (newPages held.store.hashes sampleAddresses) held) with
    ⟨hOver, first, hPass⟩
  have hCalls : Calls .empty _ _ _ :=
    .task (handler sampleServices) (.save sampleExtraction) hStores
      (.batch 1 sampleAddresses hPass hOver (.nil _))
  refine ⟨_, _, _, hCalls, List.mem_singleton.mpr rfl, ?_, ?_⟩
  · have hQueued : Task.parse "http://[::1]/1" ∈
        (Pass.begin (newPages held.store.hashes sampleAddresses) held :
          Pass Holdings (Error Unit)).pending := by
      refine mem_pending_begin_iff.mpr
        ⟨_, ⟨List.mem_cons_self, ?_⟩, rfl⟩
      decide +kernel
    rcases hPass.exists_of_mem_pending hOver hQueued with ⟨d, hd, hTask⟩
    exact ⟨d, List.mem_cons_of_mem _ (List.mem_append_left _ hd), hTask⟩
  · refine (valid_saved_iff rfl hCalls).1.mpr ?_
    intro e he
    rw [List.mem_singleton.mp he]
    rfl

/- A record without a picture and a description. -/
def thinExtraction : Extraction where
  record :=
    { sampleExtraction.record with cover := [], description := [] }
  valid := false

/- A record that cannot be used is stored if it is saved on its own. -/
theorem thin_record_is_stored :
    ∃ (given : List (Handled (Error Unit))) (final : Holdings),
      Calls .empty given given final ∧
      thinExtraction ∈ savedIn given ∧ thinExtraction.valid = false ∧
      final.store.load thinExtraction.record.pageHash =
        .ok (some thinExtraction.record) := by
  have hCalls : Calls .empty _ _ _ :=
    .task (handler sampleServices) (.save thinExtraction)
      (handler_stores sampleServices) (.nil _)
  refine ⟨_, _, hCalls, List.mem_singleton.mpr rfl, rfl, ?_⟩
  exact Store.load_save_self Store.empty (by decide)

end Harvest

end Gleaner
