import Gleaner.Harvest.Command
import Gleaner.Harvest.Folders
import Std.Time.DateTime.Timestamp

/-
  The command line: `query` with an address and the name of a
  field prints what is known of a page, and anything else
  harvests the listed pages once.  No network is reached from
  here, so that every request fails.
-/

open Gleaner

/- The bytes of a file, if it can be read. -/
def readFile? (path : String) : IO (Option (List UInt8)) := do
  try
    return some (← IO.FS.readBinFile path).toList
  catch _ => return none

/- The variables of the environment with some names. -/
def readVariables (names : List String) : IO Environment := do
  let found ← names.filterMapM fun name => do
    return (← IO.getEnv name).map fun value => (name, value)
  return ⟨found⟩

/- The store in a file, which may yet have to be made. -/
def readStore (address : String) : IO (Option Store) := do
  match Archive.path? address with
  | none => return some Store.empty
  | some path =>
      match ← readFile? path with
      | some bytes => return Archive.read? bytes
      | none => return some Store.empty

/- Keep the store, unless it is one in memory. -/
def writeStore (address : String) (s : Store) : IO Unit := do
  match Archive.path? address with
  | none => return ()
  | some path => IO.FS.writeFile path (Archive.write s)

/- The moment at which the program runs. -/
def readClock : IO Moment := do
  let now ← Std.Time.Timestamp.now
  return .afterEpoch now.toNanosecondsSinceUnixEpoch.val.toNat

def main (arguments : List String) : IO UInt32 := do
  let file ← readFile? ".env"
  let text := (file.bind Utf8.decode?).getD []
  let names := Config.names ++ Environment.mentioned text
  match Command.settings (← readVariables names) file with
  | .error e =>
      IO.eprintln e.message
      return 1
  | .ok c =>
      let now ← readClock
      let media := Text.words (· == '/') c.media.toList
      let outcome := Command.run c
        { templates := ← readFile? c.templates
          listing := ← readFile? c.listing
          store := ← readStore c.store
          shelf := Shelf.fresh
          system := (Folders.ofDay media now.date []).system
          network := Web.offline
          now := now
          arrangement := .source }
        (.ofArguments arguments)
      if let some value := outcome.printed then
        IO.println value.compact
      if let some h := outcome.holdings then
        writeStore c.store h.store
      return outcome.exit.toUInt32
