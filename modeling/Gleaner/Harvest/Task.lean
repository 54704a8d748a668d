import Gleaner.Extraction.Assemble
import Gleaner.Harvest.Shelf
import Gleaner.Harvest.Store
import Gleaner.Product.Query
import Gleaner.Template.Registry

/-
  The tasks of a harvest, and what is done for each of them.

  Key definitions include:
    * `Harvest.Task`
    * `Harvest.Task.rank`
    * `Harvest.Services`
    * `Harvest.Holdings`
    * `Harvest.extract`
    * `Harvest.handle`
    * `Harvest.ask`
-/

namespace Gleaner

namespace Harvest

------------------------------------------------------------
-- Tasks
------------------------------------------------------------

/-
  Something to be done: read a landing page, save what was read
  from one, or download a medium.
-/
inductive Task
  | parse (address : String)
  | save (e : Extraction)
  | download (m : MediaFile)
deriving DecidableEq, Repr

/- A task gives rise only to tasks of a lower rank. -/
def Task.rank : Task → Nat
  | .parse _ => 2
  | .save _ => 1
  | .download _ => 0

------------------------------------------------------------
-- Services and Holdings
------------------------------------------------------------

/-
  What a harvest makes use of: the templates, the pages and the
  media that can be fetched, the place that events are sent to,
  the system that files are kept by, the moment that records are
  dated with, and the order that attributes of a page come in.
-/
structure Services (E : Type) where
  templates : Registry
  page : String → Template → Except E (Option Content)
  media : String → Except E (List UInt8)
  publish : Record → Except E Unit
  system : Shelf.System
  now : Moment
  arrangement : Markup.Arrangement

/-
  What a harvest keeps: the records and the media, and notes of
  the media that it asked for and of the pages whose events did
  not arrive.
-/
structure Holdings where
  store : Store
  shelf : Shelf
  asked : List String
  unsent : List String
deriving DecidableEq, Repr

/- Nothing is kept. -/
def Holdings.empty : Holdings :=
  ⟨Store.empty, Shelf.fresh, [], []⟩

/- The ways in which a task fails. -/
inductive Error (E : Type)
  | page (e : Page.Error)
  | fetch (e : E)
  | damage (d : Store.Damage)
  | unwritten
deriving DecidableEq, Repr

variable {E : Type}

------------------------------------------------------------
-- Reading Pages
------------------------------------------------------------

/-
  What is read from a page, unless there is no template for it,
  it cannot be fetched as it is, or its record cannot be used.
-/
def extract (s : Services E) (address : String) :
    Except (Error E) (Option Extraction) :=
  match Page.ofAddress address with
  | .error e => .error (.page e)
  | .ok page =>
      match s.templates.ofHash? page.domain with
      | none => .ok none
      | some t =>
          match s.page address t with
          | .error e => .error (.fetch e)
          | .ok none => .ok none
          | .ok (some content) =>
              let e := Extract.record page t s.now s.arrangement content
              .ok (if e.valid then some e else none)

/-
  A part of the record of a page, and what is kept afterwards.  A
  record that is stored comes first; otherwise the page is read,
  and what is read is not saved.
-/
def ask (s : Services E) (h : Holdings) (address : String)
    (part : Record.Part) :
    Except (Error E) (Option Json) × Holdings :=
  match Page.ofAddress address with
  | .error e => (.error (.page e), h)
  | .ok page =>
      match h.store.load (Md5.hex page.address) with
      | .error d => (.error (.damage d), h)
      | .ok (some r) => (.ok (some (r.part part)), h)
      | .ok none =>
          ((extract s address).map fun found =>
            found.map fun e => e.record.part part, h)

------------------------------------------------------------
-- Handling Tasks
------------------------------------------------------------

/- Take note of what became of a medium. -/
def conclude (h : Holdings) (m : MediaFile)
    (delivery : Shelf.Delivery E) (shelf : Shelf) :
    Except (Error E) Unit × Holdings :=
  let asked := if delivery.isAsked then h.asked ++ [m.url] else h.asked
  let result :=
    match delivery with
    | .present | .stored => .ok ()
    | .unfetched e => .error (.fetch e)
    | .unwritten => .error .unwritten
  (result, { h with shelf := shelf, asked := asked })

/- Put in a medium. -/
def download (s : Services E) (h : Holdings) (m : MediaFile) :
    Except (Error E) Unit × Holdings :=
  let (delivery, shelf) := h.shelf.deliver s.system s.media m
  conclude h m delivery shelf

/-
  Save a record and send its event.  The record is kept even if
  the event does not arrive.
-/
def save (s : Services E) (h : Holdings) (r : Record) : Holdings :=
  let h := { h with store := h.store.save r }
  match s.publish r with
  | .ok () => h
  | .error _ => { h with unsent := h.unsent ++ [r.pageUrl] }

/- Do a task.  The result holds the tasks that it gives rise to. -/
def handle (s : Services E) (h : Holdings) :
    Task → Except (Error E) (List Task) × Holdings
  | .parse address =>
      ((extract s address).map fun found =>
        found.toList.map Task.save, h)
  | .save e =>
      (.ok (e.record.mediaFiles.map Task.download), save s h e.record)
  | .download m =>
      let (result, h) := download s h m
      (result.map fun _ => [], h)

/- The tasks that a task gives rise to have a lower rank. -/
theorem rank_lt_of_mem_handle
    (s : Services E)
    (h : Holdings)
    (t u : Task)
    (us : List Task)
    (hOk : (handle s h t).1 = .ok us)
    (hMem : u ∈ us) :
    u.rank < t.rank := by
  cases t with
  | parse address =>
      simp only [handle] at hOk
      cases hExtract : extract s address with
      | error e =>
          rw [hExtract] at hOk
          cases hOk
      | ok found =>
          rw [hExtract] at hOk
          simp only [Except.map, Except.ok.injEq] at hOk
          subst hOk
          rcases List.mem_map.mp hMem with ⟨e, _, rfl⟩
          exact Nat.lt_succ_self 1
  | save e =>
      simp only [handle, Except.ok.injEq] at hOk
      subst hOk
      rcases List.mem_map.mp hMem with ⟨m, _, rfl⟩
      exact Nat.zero_lt_one
  | download m =>
      simp only [handle] at hOk
      cases hDone : (download s h m).1 with
      | error e =>
          rw [hDone] at hOk
          cases hOk
      | ok x =>
          rw [hDone] at hOk
          simp only [Except.map, Except.ok.injEq] at hOk
          subst hOk
          cases hMem

end Harvest

end Gleaner
