import Gleaner.Harvest.Command
import Gleaner.Proofs.Harvest.Convergence
import Gleaner.Proofs.Harvest.Ledger

/-
  Questions before and after a harvest.  A page that is not
  stored is read to answer a question, and what is answered then
  is answered from the store once the page is harvested.

  Main declarations:
    * `Harvest.ask_holdings`
    * `Harvest.ask_of_new`
    * `Harvest.ask_of_stored`
    * `Harvest.store_of_unread`
    * `Harvest.Upholds`
    * `Harvest.ask_upheld`
-/

namespace Gleaner

/- Only the whole of a record shows when it was read. -/
theorem Record.part_dated
    {part : Record.Part}
    (hPart : part ≠ .whole)
    (r : Record)
    (m : Moment) :
    (r.dated m).part part = r.part part := by
  cases part with
  | whole => exact absurd rfl hPart
  | _ => rfl

namespace Harvest

variable {E : Type}

------------------------------------------------------------
-- Answers
------------------------------------------------------------

/- A question leaves everything as it is. -/
theorem ask_holdings
    (s : Services E)
    (h : Holdings)
    (address : String)
    (part : Record.Part) :
    (ask s h address part).2 = h := by
  unfold ask
  split
  · rfl
  · split <;> rfl

/- A question about a page that is not stored is one about the page. -/
theorem ask_of_new
    {h : Holdings}
    {address : String}
    (hTrimmed : Text.strip address = address)
    (hNew : Md5.hex address ∉ h.store.hashes)
    (s : Services E)
    (part : Record.Part) :
    (ask s h address part).1 =
      (extract s address).map fun found =>
        found.map fun e => e.record.part part := by
  unfold ask
  cases hPage : Page.ofAddress address with
  | error e =>
      rw [extract, hPage]
      rfl
  | ok page =>
      dsimp only
      rw [address_of_ofAddress hPage, hTrimmed,
        Store.load_of_not_mem hNew]

/- Services that agree answer the same about a page that is not stored. -/
theorem ask_of_agrees
    {base s : Services E}
    {Pages : String → Prop}
    (hAgrees : base.Agrees Pages s)
    {h : Holdings}
    {address : String}
    (hPage : Pages address)
    (hTrimmed : Text.strip address = address)
    (hNew : Md5.hex address ∉ h.store.hashes)
    (part : Record.Part) :
    (ask s h address part).1 =
      (extract base address).map fun found =>
        found.map fun e => (e.record.dated s.now).part part := by
  rw [ask_of_new hTrimmed hNew, hAgrees.extract address hPage]
  cases extract base address with
  | error e => simp only [Except.map]
  | ok found =>
      simp only [Except.map, Option.map_map]
      rfl

/- A question about a page that is stored is one about its record. -/
theorem ask_of_stored
    {h : Holdings}
    {address : String}
    (hTrimmed : Text.strip address = address)
    {page : Page}
    (hPage : Page.ofAddress address = .ok page)
    {r : Record}
    (hLoad : h.store.load (Md5.hex address) = .ok (some r))
    (s : Services E)
    (part : Record.Part) :
    (ask s h address part).1 = .ok (some (r.part part)) := by
  unfold ask
  rw [hPage]
  dsimp only
  rw [address_of_ofAddress hPage, hTrimmed, hLoad]

/- What is stored of a page alone is loaded, but for the date. -/
theorem load_of_under_extract
    {store : Store}
    {s : Services E}
    {address : String}
    (hTrimmed : Text.strip address = address)
    {f : Extraction}
    (hRead : extract s address = .ok (some f))
    {m : Moment}
    (hDate : m.isValid = true)
    (hUnder :
      store.under (Md5.hex address) =
        Store.empty.save (f.record.dated m)) :
    store.load (Md5.hex address) =
      .ok (some (f.record.dated m.settled)) := by
  have hHash : (f.record.dated m).pageHash = Md5.hex address := by
    change Md5.hex f.record.pageUrl = _
    rw [pageUrl_of_extract hRead, hTrimmed]
  rw [← hHash] at hUnder ⊢
  exact Store.load_of_under_eq (r := f.record.dated m) hDate hUnder

/- A question leaves the store as it was found. -/
theorem store_of_query
    {c : Config}
    {w : Command.Workplace}
    {address : String}
    {part : Record.Part}
    {left : Holdings}
    (hLeft :
      (Command.run c w (.query address part)).holdings = some left) :
    w.store = some left.store := by
  unfold Command.run at hLeft
  split at hLeft
  · rename_i hStore
    rw [hStore]
    dsimp only at hLeft
    split at hLeft
    · cases hLeft
    · -- What the program keeps is what the question left behind.
      generalize hAsk : ask _ _ address part = asked at hLeft
      rcases asked with ⟨answer, after⟩
      have hAfter := congrArg (some ·.2.store) hAsk
      rw [ask_holdings] at hAfter
      cases answer <;> cases hLeft <;> exact hAfter
  · cases hLeft

/-
  A harvest of a page upholds an answer that was given before: a
  value is answered from the store, and only the whole record may
  be of another date; nothing is stored and still answered where
  nothing was; and a task fails where no answer could be given.
-/
structure Upholds (base : Services E) (h : Holdings)
    (address : String) (part : Record.Part)
    (answer : Except (Error E) (Option Json))
    (report : Report) (final : Holdings) : Prop where
  value :
    ∀ v, answer = .ok (some v) →
      ∃ (r : Record) (m : Moment),
        v = r.part part ∧
        (part ≠ .whole → (r.dated m).part part = v) ∧
        ∀ s : Services E,
          (ask s final address part).1 =
            .ok (some ((r.dated m).part part))
  missing :
    answer = .ok none →
      final.store = h.store ∧
      ∀ s, base.Alike s → (ask s final address part).1 = .ok none
  failure :
    ∀ err, answer = .error err →
      report.failed = 1 ∧ final.store = h.store

------------------------------------------------------------
-- Harvests of One Page
------------------------------------------------------------

section OnePage

variable {base : Services E} {h : Holdings} {address : String}
variable {limit : Nat} {log : List (Handled (Error E))}
variable {p : Pass Holdings (Error E)}

/- Nothing is done but to read a page from which nothing is read. -/
theorem unread_upkeep
    {Pages : String → Prop}
    (hPage : Pages address)
    (hUnread : ∀ f, extract base address ≠ .ok (some f)) :
    Pass.Upkeep (Reads (base.Agrees Pages)) (·.store = h.store)
      (· = .parse address) (fun _ _ => True) where
  inv := by
    rintro _ now _ ⟨s, look, _, rfl⟩ hStore rfl
    rw [state_act_parse]
    exact hStore
  due := by
    rintro _ now _ u ⟨s, look, ⟨hAgrees, _⟩, rfl⟩ _ rfl hu
    rcases (mem_tasksOf_act_parse s look now).mp hu with ⟨e, hRead, _⟩
    rcases (extract_eq_some_of_agrees hAgrees hPage).mp hRead with
      ⟨f, hBase, _⟩
    exact absurd hBase (hUnread f)
  settles := by
    intros
    trivial
  keeps := by
    intros
    trivial

/- Reading a page fails whenever it is read, or never. -/
theorem isOk_act_parse
    {s : Services E}
    {Pages : String → Prop}
    (hAgrees : base.Agrees Pages s)
    (look : Holdings → Shelf)
    (now : Holdings)
    (hPage : Pages address) :
    ((overlapping s look).act now (.parse address)).1.isOk =
      (extract base address).isOk := by
  simp only [overlapping, handleSince, handle]
  rw [hAgrees.extract address hPage]
  cases extract base address <;> rfl

variable
    (hNew : Md5.hex address ∉ h.store.hashes)
    (hPass :
      Pass.History (Reads (base.Agrees (IsNew h.store.hashes [address])))
        limit (Pass.begin (newPages h.store.hashes [address]) h) log p)
    (hOver : p.IsOver)

include hNew hPass hOver

/- What is read from a page is loaded once it is harvested. -/
theorem load_of_extract
    (hTrimmed : Text.strip address = address)
    {f : Extraction}
    (hRead : extract base address = .ok (some f)) :
    ∃ m, p.state.store.load (Md5.hex address) =
      .ok (some (f.record.dated m)) := by
  rcases exists_under_of_extract hTrimmed hNew hPass hOver hRead with
    ⟨m, hDate, hUnder⟩
  exact ⟨m.settled,
    load_of_under_extract hTrimmed hRead hDate hUnder⟩

/- The log of such a harvest holds the page alone. -/
theorem exists_log_eq_of_unread
    (hUnread : ∀ f, extract base address ≠ .ok (some f)) :
    p.state.store = h.store ∧
      ∃ d, log = [d] ∧ d.task = .parse address := by
  have hQueue :
      (Pass.begin (newPages h.store.hashes [address]) h :
        Pass Holdings (Error E)).pending = [.parse address] := by
    simp [Pass.begin, Pass.pending, newPages, hNew]
  have hDue : ∀ t ∈ (Pass.begin (newPages h.store.hashes [address]) h :
      Pass Holdings (Error E)).pending, t = .parse address := by
    rw [hQueue]
    exact fun t ht => List.mem_singleton.mp ht
  have hListed : IsNew h.store.hashes [address] address :=
    ⟨List.mem_singleton_self address, hNew⟩
  rcases (unread_upkeep hListed hUnread).history hPass rfl hDue with
    ⟨hStore, hLog, _⟩
  have hNone : log.flatMap (·.followUps) = [] := by
    rw [List.flatMap_eq_nil_iff]
    intro d hd
    rw [List.eq_nil_iff_forall_not_mem]
    intro u hu
    -- What a page gives rise to is not a page, and would be done.
    rcases hPass.exists_of_mem_followUps hOver hd hu with
      ⟨d', hd', rfl⟩
    have hRank := hPass.rank_lt_of_mem_followUps hd hu
    rw [(hLog d hd).1, (hLog d' hd').1] at hRank
    exact absurd hRank (lt_irrefl _)
  have hTasks := hPass.handled_perm hOver
  rw [hNone, hQueue, List.append_nil, List.perm_singleton,
    List.map_eq_singleton_iff] at hTasks
  exact ⟨hStore, hTasks⟩

/-
  A harvest of a page from which nothing is read stores nothing,
  and its one task fails exactly if reading the page does.
-/
theorem store_of_unread
    (hUnread : ∀ f, extract base address ≠ .ok (some f)) :
    p.state.store = h.store ∧
      p.report.failed =
        if (extract base address).isOk then 0 else 1 := by
  rcases exists_log_eq_of_unread hNew hPass hOver hUnread with
    ⟨hStore, d, rfl, hTask⟩
  rcases hPass.exists_handler d (List.mem_singleton_self d) with
    ⟨_, now, ⟨s, look, ⟨hAgrees, _⟩, rfl⟩, hOutcome⟩
  have hListed : IsNew h.store.hashes [address] address :=
    ⟨List.mem_singleton_self address, hNew⟩
  refine ⟨hStore, ?_⟩
  rw [hPass.failed_eq hOver, List.countP_singleton, Handled.isFailed,
    hOutcome, hTask, isOk_act_parse hAgrees look now hListed]
  cases (extract base address).isOk <;> rfl

/- A harvest upholds what is answered about a page before it. -/
theorem upholds_ask
    (hTrimmed : Text.strip address = address)
    (hSteady : base.Steady address)
    {s : Services E}
    (hAlike : base.Alike s)
    (part : Record.Part) :
    Upholds base h address part (ask s h address part).1 p.report
      p.state := by
  have hAgrees :
      ∀ t, base.Alike t → base.Agrees (· = address) t := by
    intro t hSame
    refine agrees_of_alike ?_ hSame
    rintro _ rfl
    exact hSteady
  rw [ask_of_agrees (hAgrees s hAlike) rfl hTrimmed hNew]
  cases hRead : extract base address with
  | error err =>
      have hUnread : ∀ f, extract base address ≠ .ok (some f) := by
        simp [hRead]
      have hEnd := store_of_unread hNew hPass hOver hUnread
      rw [hRead] at hEnd
      exact ⟨nofun, nofun, fun _ _ => hEnd.symm⟩
  | ok found =>
      cases found with
      | none =>
          have hUnread : ∀ f, extract base address ≠ .ok (some f) := by
            simp [hRead]
          rcases store_of_unread hNew hPass hOver hUnread with
            ⟨hStore, _⟩
          refine ⟨nofun, fun _ => ⟨hStore, ?_⟩, nofun⟩
          intro t hSame
          rw [← hStore] at hNew
          rw [ask_of_agrees (hAgrees t hSame) rfl hTrimmed hNew, hRead]
          rfl
      | some f =>
          refine ⟨?_, nofun, nofun⟩
          rintro v ⟨⟩
          rcases load_of_extract hNew hPass hOver hTrimmed hRead with
            ⟨m, hLoad⟩
          rcases extract_eq_some hRead with ⟨page, _, _, hPage, _⟩
          refine ⟨f.record.dated s.now, m, rfl, ?_, ?_⟩
          · intro hPart
            exact Record.part_dated hPart _ m
          · intro t
            exact ask_of_stored hTrimmed hPage hLoad t part

end OnePage

/-
  A question that is asked about a page that is not stored leaves
  everything as it is.  If the page is steady: in whatever order
  the tasks of a batch of that page end, whenever they are done
  and in whatever order attributes come, the batch upholds what
  was answered, and so does the program at any limit that can be
  kept to.
-/
theorem ask_upheld
    {base : Services E}
    {h : Holdings}
    {address : String}
    (hTrimmed : Text.strip address = address)
    (hNew : Md5.hex address ∉ h.store.hashes)
    (hSteady : base.Steady address)
    {concurrency : Nat}
    {log : List (Handled (Error E))}
    {p : Pass Holdings (Error E)}
    (hPass :
      Pass.History (Reads base.Alike) (limitOf concurrency)
        (Pass.begin (newPages h.store.hashes [address]) h) log p)
    (hOver : p.IsOver)
    {s : Services E}
    (hAlike : base.Alike s)
    (part : Record.Part) :
    (ask s h address part).2 = h ∧
      (∀ (c : Config) (w : Command.Workplace) (left : Holdings),
        (Command.run c w (.query address part)).holdings =
            some left →
          w.store = some left.store) ∧
      Upholds base h address part (ask s h address part).1 p.report
        p.state ∧
      ∀ (t : Services E) (other : Nat),
        base.Alike t → t.now.isValid = true →
          limitOf other ≤ maxLimit →
            ∃ (report : Report) (final : Holdings),
              batch t other h [address] = (some report, final) ∧
                Upholds base h address part (ask s h address part).1
                  report final := by
  have hAgrees :
      ∀ t, base.Alike t →
        base.Agrees (IsNew h.store.hashes [address]) t := by
    intro t hSame
    refine agrees_of_alike ?_ hSame
    rintro a ⟨ha, _⟩
    rw [List.mem_singleton.mp ha]
    exact hSteady
  have hReads :
      Pass.History (Reads (base.Agrees (IsNew h.store.hashes [address])))
        (limitOf concurrency)
        (Pass.begin (newPages h.store.hashes [address]) h) log p := by
    refine hPass.mono ?_
    intro handler hHandler
    exact hHandler.mono hAgrees
  refine ⟨ask_holdings s h address part, ?_,
    upholds_ask hNew hReads hOver hTrimmed hSteady hAlike part, ?_⟩
  · intro c w left hLeft
    exact store_of_query hLeft
  · intro t other hSame hNow hLimit
    rcases exists_history_of_batch t hLimit h [address] with
      ⟨log', p', hHistory, hOver', hBatch⟩
    have hReads' :
        Pass.History
          (Reads (base.Agrees (IsNew h.store.hashes [address])))
          (limitOf other)
          (Pass.begin (newPages h.store.hashes [address]) h) log' p' := by
      refine hHistory.mono ?_
      rintro _ rfl
      exact handler_reads (hAgrees t hSame) hNow
    exact ⟨p'.report, p'.state, hBatch,
      upholds_ask hNew hReads' hOver' hTrimmed hSteady hAlike part⟩

/-
  A page that can be fetched is asked about before and after it
  is harvested; one cannot be fetched; and there is no template
  for another.
-/
theorem ask_upheld_sample :
    (∃ v,
      (ask sampleServices .empty "http://[::1]/1" .cover).1 =
          .ok (some v) ∧
        (ask sampleServices
            (batch sampleServices 1 .empty ["http://[::1]/1"]).2
            "http://[::1]/1" .cover).1 =
          .ok (some v)) ∧
      (batch sampleServices 1 .empty ["http://[::1]/2"]).1.map
          (·.failed) =
        some 1 ∧
      (batch sampleServices 1 .empty ["http://[::2]/1"]).2.store =
        Store.empty := by
  have hUpholds :
      ∀ address part, Text.strip address = address →
        ∃ report final,
          batch sampleServices 1 .empty [address] =
              (some report, final) ∧
            Upholds sampleServices .empty address part
              (ask sampleServices .empty address part).1 report
              final := by
    intro address part hTrimmed
    rcases
        Pass.run_isOver
          (handler_reads (Services.Alike.refl sampleServices) rfl)
          (limitOf_pos 1)
          (Pass.begin (newPages [] [address]) .empty) with
      ⟨hOver, log, hPass⟩
    rcases
        ask_upheld (h := .empty) hTrimmed List.not_mem_nil
          (steady_sample address) hPass hOver (.refl sampleServices)
          part with
      ⟨_, _, _, hProgram⟩
    exact hProgram sampleServices 1 (.refl _) rfl (by decide)
  refine ⟨?_, ?_, ?_⟩
  · rcases extract_sample with ⟨e, hRead, _⟩
    have hBefore :
        (ask sampleServices .empty "http://[::1]/1" .cover).1 =
          .ok (some (e.record.part .cover)) := by
      rw [ask_of_new (by decide) List.not_mem_nil, hRead]
      rfl
    rcases hUpholds "http://[::1]/1" .cover (by decide) with
      ⟨report, final, hBatch, hUpheld⟩
    rcases hUpheld.value _ hBefore with ⟨r, m, _, hSame, hAfter⟩
    refine ⟨_, hBefore, ?_⟩
    rw [hBatch, hAfter, hSame (by decide)]
  · have hFailed :
        extract sampleServices "http://[::1]/2" =
          .error (.fetch ()) := by
      decide +kernel
    have hBefore :
        (ask sampleServices .empty "http://[::1]/2" .whole).1 =
          .error (.fetch ()) := by
      rw [ask_of_new (by decide) List.not_mem_nil, hFailed]
      rfl
    rcases hUpholds "http://[::1]/2" .whole (by decide) with
      ⟨report, final, hBatch, hUpheld⟩
    rw [hBatch, Option.map_some, (hUpheld.failure _ hBefore).1]
  · have hMissing :
        extract sampleServices "http://[::2]/1" = .ok none := by
      decide +kernel
    have hBefore :
        (ask sampleServices .empty "http://[::2]/1" .title).1 =
          .ok none := by
      rw [ask_of_new (by decide) List.not_mem_nil, hMissing]
      rfl
    rcases hUpholds "http://[::2]/1" .title (by decide) with
      ⟨report, final, hBatch, hUpheld⟩
    rw [hBatch]
    exact (hUpheld.missing hBefore).1

/-
  What is answered about a page that is not steady is not what is
  answered from the store, if attributes came in another order in
  the meantime.  And a page that cannot be fetched is no failed
  task of a batch with a limit that cannot be kept to.
-/
theorem ask_not_upheld :
    (∃ v w,
      (ask (cutTagServices .source) .empty "http://[::1]/1"
          .description).1 =
        .ok (some v) ∧
      (ask (cutTagServices .source)
          (batch (cutTagServices .reversed) 1 .empty
            ["http://[::1]/1"]).2 "http://[::1]/1" .description).1 =
        .ok (some w) ∧
      v ≠ w) ∧
    (ask sampleServices .empty "http://[::1]/2" .whole).1 =
      .error (.fetch ()) ∧
    batch sampleServices (2 ^ 61) .empty ["http://[::1]/2"] =
      (none, .empty) := by
  refine ⟨?_, ?_, batch_of_lt sampleServices (by decide) _ _⟩
  · rcases exists_extract_cutTag with
      ⟨⟨e, hRead, hTexts⟩, f, hRead', hTexts'⟩
    have hLimit : limitOf 1 ≤ maxLimit := by decide
    rcases
        exists_under_batch (h := .empty) rfl hLimit (by decide)
          List.not_mem_nil hRead' with
      ⟨m, hDate, hUnder⟩
    have hLoad :=
      load_of_under_extract (by decide) hRead' hDate hUnder
    rcases extract_eq_some hRead with ⟨page, _, _, hPage, _⟩
    refine ⟨descriptionJson e.record.description,
      descriptionJson f.record.description, ?_, ?_, ?_⟩
    · rw [ask_of_new (by decide) List.not_mem_nil, hRead]
      rfl
    · rw [ask_of_stored (by decide) hPage hLoad]
      rfl
    · intro hSame
      have hDescription :=
        Store.compact_descriptionJson_injective
          (congrArg Json.compact hSame)
      rw [hDescription, hTexts'] at hTexts
      exact absurd hTexts (by decide)
  · have hFailed :
        extract sampleServices "http://[::1]/2" =
          .error (.fetch ()) := by
      decide +kernel
    rw [ask_of_new (by decide) List.not_mem_nil, hFailed]
    rfl

end Harvest

end Gleaner
