import Gleaner.Harvest.Store
import Gleaner.Text.Cut

/-
  Where the store is kept between harvests, and in what form.

  Key definitions include:
    * `Archive.path?`
    * `Archive.write`
    * `Archive.read?`
-/

namespace Gleaner

namespace Archive

/- A text without a scheme, however often it stands in front. -/
def dropScheme (cs : List Char) : List Char :=
  match _ : Text.dropPrefix? "sqlite:".toList cs with
  | none => cs
  | some rest =>
      if rest.length < cs.length then dropScheme rest else rest
termination_by cs.length

/-
  The path of the file that an address names, without its
  scheme and its options.  Nothing is kept of a store in memory.
-/
def path? (address : String) : Option String :=
  let cs := address.toList
  if Text.contains ":memory:".toList cs then none
  else
    some (String.ofList ((dropScheme cs).takeWhile (· != '?')))

/- All records, as they are kept. -/
def write (s : Store) : String :=
  (Json.array (s.records.map Record.toJson)).compact

/- The store of the records that are kept, if all can be read. -/
def read? (bytes : List UInt8) : Option Store :=
  ((Json.parseBytes? bytes).bind (Json.list? Record.ofJson?)).map
    Store.empty.saveAll

end Archive

end Gleaner
