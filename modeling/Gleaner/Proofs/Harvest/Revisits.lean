import Gleaner.Proofs.Harvest.Accounts
import Gleaner.Proofs.Harvest.Calls

/-
  Pages that are stored and listed again.  A record is kept under
  the digest of its address without the blanks around it, and a
  batch passes over an address whose digest, blanks included, is
  stored.

  Main declarations:
    * `Harvest.IsVisited`
    * `Harvest.hex_strip_mem_hashes`
    * `Harvest.mem_hashes_or_exists_strip`
    * `Harvest.skips_visited`
-/

namespace Gleaner

namespace Harvest

variable {E : Type}

------------------------------------------------------------
-- Visits
------------------------------------------------------------

/- A record that was read from an address has been saved. -/
def IsVisited (address : String) (log : List (Handled E)) : Prop :=
  ∃ e ∈ savedIn log, CameFrom log address e

/- Once a record is saved, its digest stays stored. -/
theorem hex_strip_mem_hashes
    {limit : Nat}
    {p q : Pass Holdings (Error E)}
    {first given log : List (Handled (Error E))}
    {final : Holdings}
    {address : String}
    (hPass : Pass.History Handler.Stores limit p first q)
    (hVisited : IsVisited address first)
    (hCalls : Calls q.state given log final) :
    Md5.hex (Text.strip address) ∈ final.store.hashes := by
  rcases hVisited with ⟨e, he, hCame⟩
  rw [hCalls.store_eq, mem_hashes_filed_iff, store_of_history hPass,
    mem_hashes_filed_iff]
  exact .inl (.inr ⟨e, he, hCame.pageHash hPass⟩)

/- No digests come in but those of addresses without their blanks. -/
theorem mem_hashes_or_exists_strip
    {limit : Nat}
    {h : Holdings}
    {addresses : List String}
    {log : List (Handled (Error E))}
    {p : Pass Holdings (Error E)}
    (hPass :
      Pass.History Handler.Stores limit
        (Pass.begin (newPages h.store.hashes addresses) h) log p)
    {hash : String}
    (hStored : hash ∈ p.state.store.hashes) :
    hash ∈ h.store.hashes ∨
      ∃ a ∈ addresses, Md5.hex (Text.strip a) = hash := by
  rw [store_of_history hPass, mem_hashes_filed_iff] at hStored
  rcases hStored with hOld | ⟨e, he, rfl⟩
  · exact .inl hOld
  · rcases exists_cameFrom_of_mem_savedIn hPass he with
      ⟨a, ha, hCame⟩
    exact .inr ⟨a, ha, (hCame.pageHash hPass).symm⟩

------------------------------------------------------------
-- Later Batches
------------------------------------------------------------

/- A batch reads a listed address unless its digest is stored. -/
theorem parse_mem_iff
    {limit : Nat}
    {h : Holdings}
    {addresses : List String}
    {log : List (Handled (Error E))}
    {p : Pass Holdings (Error E)}
    (hPass :
      Pass.History Handler.Stores limit
        (Pass.begin (newPages h.store.hashes addresses) h) log p)
    {address : String}
    (hListed : address ∈ addresses) :
    Task.parse address ∈ log.map (·.task) ++ p.pending ↔
      Md5.hex address ∉ h.store.hashes := by
  rw [hPass.mem_parse_iff, mem_pending_begin_iff]
  constructor
  · rintro ⟨_, ⟨_, hNew⟩, hSame⟩
    cases hSame
    exact hNew
  · intro hNew
    exact ⟨address, ⟨hListed, hNew⟩, rfl⟩

/-
  Once a batch has saved the record of a page, whatever is called
  after it: the digest of the address without blanks around it is
  stored; a later batch that lists the address has no task to
  read it exactly if the digest of the address as it is listed is
  stored; and so it has none if there are no blanks around it.
-/
theorem skips_visited
    {concurrency other : Nat}
    {h now : Holdings}
    {addresses others : List String}
    {address : String}
    {first given log later : List (Handled (Error E))}
    {p q : Pass Holdings (Error E)}
    (hPass :
      Pass.History Handler.Stores (limitOf concurrency)
        (Pass.begin (newPages h.store.hashes addresses) h) first p)
    (hVisited : IsVisited address first)
    (hCalls : Calls p.state given log now)
    (hLater :
      Pass.History Handler.Stores (limitOf other)
        (Pass.begin (newPages now.store.hashes others) now) later q)
    (hListed : address ∈ others) :
    Md5.hex (Text.strip address) ∈ now.store.hashes ∧
      (Task.parse address ∉ later.map (·.task) ++ q.pending ↔
        Md5.hex address ∈ now.store.hashes) ∧
      (Text.strip address = address →
        Task.parse address ∉ later.map (·.task) ++ q.pending) := by
  have hStored := hex_strip_mem_hashes hPass hVisited hCalls
  have hSkipped :
      Task.parse address ∉ later.map (·.task) ++ q.pending ↔
        Md5.hex address ∈ now.store.hashes := by
    rw [parse_mem_iff hLater hListed, not_not]
  refine ⟨hStored, hSkipped, ?_⟩
  intro hTrimmed
  rw [hTrimmed] at hStored
  exact hSkipped.mpr hStored

------------------------------------------------------------
-- Pages That Are Read Again
------------------------------------------------------------

/- Running a batch over one page visits it, if it can be read. -/
theorem exists_visit
    {s : Services E}
    (hNow : s.now.isValid = true)
    {h : Holdings}
    {address : String}
    {e : Extraction}
    (hNew : Md5.hex address ∉ h.store.hashes)
    (hRead : extract s address = .ok (some e)) :
    ∃ (first : List (Handled (Error E))) (p : Pass Holdings (Error E)),
      Pass.History Handler.Stores (limitOf 1)
        (Pass.begin (newPages h.store.hashes [address]) h) first p ∧
      p.state = (batch s 1 h [address]).2 ∧
      IsVisited address first := by
  have hLimit : limitOf 1 ≤ maxLimit := by decide
  rcases exists_history_of_batch s hLimit h [address] with
    ⟨first, p, hHistory, hOver, hBatch⟩
  have hPass :
      Pass.History (Reads (s.Agrees (IsNew h.store.hashes [address])))
        (limitOf 1)
        (Pass.begin (newPages h.store.hashes [address]) h) first p := by
    refine hHistory.mono ?_
    rintro _ rfl
    exact handler_reads (.refl _ s) hNow
  refine ⟨first, p, hPass.mono fun _ => stores_of_reads, ?_, ?_⟩
  · rw [hBatch]
  · exact exists_saved_of_extract hPass hOver
      ⟨List.mem_singleton_self address, hNew⟩ hRead

/-
  A page is visited, some record is saved on its own, and then a
  batch lists the page twice.
-/
theorem skips_visited_sample :
    ∃ (first later : List (Handled (Error Unit)))
        (p q : Pass Holdings (Error Unit)) (now : Holdings),
      IsVisited "http://[::1]/1" first ∧
      now = save sampleServices p.state sampleExtraction.record ∧
      Pass.History Handler.Stores (limitOf 2)
        (Pass.begin (newPages now.store.hashes sampleAddresses) now)
        later q ∧
      q.IsOver ∧
      Md5.hex "http://[::1]/1" ∈ now.store.hashes ∧
      Task.parse "http://[::1]/1" ∉ later.map (·.task) := by
  rcases extract_sample with ⟨e, hRead, _⟩
  rcases exists_visit rfl (h := .empty) List.not_mem_nil hRead with
    ⟨first, p, hPass, _, hVisited⟩
  have hStores := handler_stores sampleServices
  have hCalls : Calls p.state _ _ _ :=
    .task (handler sampleServices) (.save sampleExtraction) hStores
      (.nil _)
  let now := save sampleServices p.state sampleExtraction.record
  rcases
      Pass.run_isOver hStores (limitOf_pos 2)
        (Pass.begin (newPages now.store.hashes sampleAddresses) now) with
    ⟨hOver, later, hLater⟩
  rcases
      skips_visited hPass hVisited hCalls hLater
        List.mem_cons_self with
    ⟨hStored, _, hSkipped⟩
  have hTrimmed : Text.strip "http://[::1]/1" = "http://[::1]/1" := by
    decide
  rw [hTrimmed] at hStored
  refine ⟨first, later, p, _, now, hVisited, rfl, hLater, hOver,
    hStored, ?_⟩
  intro hAgain
  exact hSkipped hTrimmed (List.mem_append_left _ hAgain)

/- A page is fetched from the address without blanks around it. -/
def paddedServices : Services Unit :=
  { sampleServices with
    page := fun address => sampleServices.page (Text.strip address) }

/- An address with a blank before it can be read. -/
theorem exists_extract_padded :
    ∃ e : Extraction,
      extract paddedServices " http://[::1]/1" = .ok (some e) := by
  have hSome :
      ((extract paddedServices " http://[::1]/1").toOption.getD
        none).isSome = true := by
    decide +kernel
  cases hExtract : extract paddedServices " http://[::1]/1" with
  | error err =>
      rw [hExtract] at hSome
      cases hSome
  | ok found =>
      rw [hExtract] at hSome
      rcases Option.isSome_iff_exists.mp hSome with ⟨e, hFound⟩
      exact ⟨e, congrArg Except.ok hFound⟩

/-
  A page is listed with a blank before its address.  Its record
  is stored by a batch, and the next batch reads it again.
-/
theorem padded_page_is_read_again :
    ∃ h : Holdings,
      h = (batch paddedServices 1 .empty [" http://[::1]/1"]).2 ∧
      Md5.hex "http://[::1]/1" ∈ h.store.hashes ∧
      ((batch paddedServices 1 h [" http://[::1]/1"]).1.map
        (·.pages)) = some 1 := by
  have hStrip : Text.strip " http://[::1]/1" = "http://[::1]/1" := by
    decide
  have hApart :
      Md5.hex "http://[::1]/1" ≠ Md5.hex " http://[::1]/1" := by
    decide +kernel
  rcases exists_extract_padded with ⟨e, hRead⟩
  rcases exists_visit rfl (h := .empty) List.not_mem_nil hRead with
    ⟨first, p, hPass, hState, hVisited⟩
  have hStored := hex_strip_mem_hashes hPass hVisited (.nil _)
  rw [hStrip] at hStored
  have hUnknown : Md5.hex " http://[::1]/1" ∉ p.state.store.hashes := by
    intro hKnown
    rcases mem_hashes_or_exists_strip hPass hKnown with
      hOld | ⟨a, ha, hSame⟩
    · cases hOld
    · rw [List.mem_singleton.mp ha, hStrip] at hSame
      exact hApart hSame
  have hLimit : limitOf 1 ≤ maxLimit := by decide
  rcases
      exists_history_of_batch paddedServices hLimit p.state
        [" http://[::1]/1"] with
    ⟨log, q, hAgain, hOver, hBatch⟩
  refine ⟨p.state, hState, hStored, ?_⟩
  rw [hBatch, Option.map_some, (accounts_of_handler hAgain hOver).pages]
  simp [hUnknown]

end Harvest

end Gleaner
