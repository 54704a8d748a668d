import Gleaner.Harvest.Archive
import Gleaner.Harvest.Config
import Gleaner.Harvest.Environment
import Gleaner.Harvest.Listing
import Gleaner.Harvest.Pass
import Gleaner.Web.Fetch

/-
  What the program does: it answers a question about a page, or
  harvests the listed pages once.

  Key definitions include:
    * `Command`
    * `Command.ofArguments`
    * `Command.settings`
    * `Command.Workplace`
    * `Command.Outcome`
    * `Command.run`
-/

namespace Gleaner

/- Services that are reached over a network. -/
def Harvest.Services.ofNetwork
    (net : Web.Transport)
    (c : Config)
    (templates : Registry)
    (system : Shelf.System)
    (now : Moment)
    (arrangement : Markup.Arrangement) :
    Harvest.Services Web.Error where
  templates := templates
  page := Web.fetchPage net
  media := Web.fetchMedia net
  publish := Web.publish net c.hook
  system := system
  now := now
  arrangement := arrangement

/- What the program is asked to do. -/
inductive Command
  | query (address : String) (part : Record.Part)
  | pass
deriving DecidableEq, Repr

namespace Command

------------------------------------------------------------
-- Arguments and Settings
------------------------------------------------------------

/- The command that arguments give. -/
def ofArguments : List String → Command
  | "query" :: address :: rest =>
      .query address (.ofName (rest.head?.getD ""))
  | _ => .pass

/- The environment with the variables of a file. -/
def environment (e : Environment) (file : Option (List UInt8)) :
    Environment :=
  match file.bind Utf8.decode? with
  | some cs => e.load cs
  | none => e

/- The settings that the environment and a file give. -/
def settings (e : Environment) (file : Option (List UInt8)) :
    Except Config.Error Config :=
  Config.ofLookup (environment e file).get?

------------------------------------------------------------
-- Running
------------------------------------------------------------

/-
  What the program finds: the files that the settings name, the
  store unless it cannot be opened, the shelf of the day and the
  system that keeps it, the network, the time, and the order that
  attributes come in.
-/
structure Workplace where
  templates : Option (List UInt8)
  listing : Option (List UInt8)
  store : Option Store
  shelf : Shelf
  system : Shelf.System
  network : Web.Transport
  now : Moment
  arrangement : Markup.Arrangement

/-
  What the program leaves behind: its exit code, what it prints,
  and what it keeps unless it could not even start.
-/
structure Outcome where
  exit : Nat
  printed : Option Json
  holdings : Option Harvest.Holdings

namespace Outcome

/- The program could not start. -/
def stuck : Outcome :=
  ⟨1, none, none⟩

/- The program has done its work. -/
def done (printed : Option Json) (h : Harvest.Holdings) : Outcome :=
  ⟨0, printed, some h⟩

/- The program has failed at its work. -/
def failed (h : Harvest.Holdings) : Outcome :=
  ⟨1, none, some h⟩

/- The program was broken off. -/
def aborted (h : Harvest.Holdings) : Outcome :=
  ⟨101, none, some h⟩

end Outcome

/-
  Harvest the listed pages.  Without a list there is nothing to
  harvest.  The program keeps no schedule: a pass ends with the
  exit code of a program that is to be started again.
-/
def harvest (s : Harvest.Services Web.Error) (concurrency : Nat)
    (h : Harvest.Holdings) (listing : Option (List UInt8)) :
    Outcome :=
  match listing.bind Listing.ofBytes? with
  | none => .failed h
  | some addresses =>
      match Harvest.batch s concurrency h addresses with
      | (none, h) => .aborted h
      | (some _, h) => .failed h

/-
  Run a command.  There have to be templates, a name for the
  program that can be told to servers, and a store.
-/
def run (c : Config) (w : Workplace) (command : Command) : Outcome :=
  match w.templates, w.store with
  | some table, some store =>
      if !Web.isAgent c.agent then .stuck
      else
        let s := Harvest.Services.ofNetwork w.network c
          (Registry.ofBytes table) w.system w.now w.arrangement
        let h := { Harvest.Holdings.empty with
          store := store
          shelf := w.shelf }
        match command with
        | .pass => harvest s c.concurrency h w.listing
        | .query address part =>
            match Harvest.ask s h address part with
            | (.error _, h) => .failed h
            | (.ok found, h) => .done found h
  | _, _ => .stuck

end Command

end Gleaner
