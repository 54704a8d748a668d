import Gleaner.Text.Blank
import Gleaner.Text.Number

/-
  The settings of a harvest, looked up by name.

  Key definitions include:
    * `Config`
    * `Config.Error`
    * `Config.Error.message`
    * `Config.names`
    * `Config.ofLookup`
-/

namespace Gleaner

/-
  The settings: where templates, records, media and listed
  pages are kept, when to harvest, where to send events, how
  many tasks run at once, and how servers are asked.
-/
structure Config where
  templates : String
  store : String
  media : String
  listing : String
  schedule : String
  hook : Option String
  concurrency : Nat
  agent : String
  timeout : Nat
deriving DecidableEq, Repr

namespace Config

------------------------------------------------------------
-- Defaults
------------------------------------------------------------

/- The settings when nothing is said. -/
def usual : Config where
  templates := "conf/templateResource.csv"
  store := "sqlite:database/products.db"
  media := "./imageResource"
  listing := "conf/urls.txt"
  schedule := "0 */5 * * * *"
  hook := none
  concurrency := 5
  agent :=
    "Mozilla/5.0 (Windows NT 10.0; Win64; x64) " ++
      "AppleWebKit/537.36 (KHTML, like Gecko) " ++
      "Chrome/78.0.3904.108 Safari/537.36"
  timeout := 5

/- The names under which settings are looked up. -/
def names : List String :=
  ["TEMPLATE_PATH", "DATABASE_URL", "MEDIA_DIR", "HARVEST_URLS",
    "HARVEST_SCHEDULE", "HTTP_USER_AGENT", "HARVEST_CONCURRENCY",
    "HTTP_TIMEOUT_SECS", "RESULT_WEBHOOK_URL"]

------------------------------------------------------------
-- Look-up
------------------------------------------------------------

/- A setting that has to be a number and is not. -/
structure Error where
  name : String
  value : String
  fault : Text.NumberFault
deriving DecidableEq, Repr

/- The wording of an error. -/
def Error.message (e : Error) : String :=
  e.name ++ " is not a number: " ++ e.value ++ ": " ++
    e.fault.message

/- The value under a name, unless it is blank. -/
def value? (look : String → Option String) (name : String) :
    Option String :=
  ((look name).map Text.strip).filter (!·.isEmpty)

/- The number under a name. -/
def number? (look : String → Option String) (name : String) :
    Except Error (Option Nat) :=
  match value? look name with
  | none => .ok none
  | some value =>
      match Text.readNumber Text.maxWord value.toList with
      | .ok n => .ok (some n)
      | .error fault => .error ⟨name, value, fault⟩

/-
  The settings that are looked up.  What is missing or blank is
  as usual, and at least one task runs at a time.
-/
def ofLookup (look : String → Option String) :
    Except Error Config := do
  let text (name usual : String) : String :=
    (value? look name).getD usual
  let concurrency ← number? look "HARVEST_CONCURRENCY"
  let timeout ← number? look "HTTP_TIMEOUT_SECS"
  return {
    templates := text "TEMPLATE_PATH" usual.templates
    store := text "DATABASE_URL" usual.store
    media := text "MEDIA_DIR" usual.media
    listing := text "HARVEST_URLS" usual.listing
    schedule := text "HARVEST_SCHEDULE" usual.schedule
    hook := value? look "RESULT_WEBHOOK_URL"
    concurrency := max 1 (concurrency.getD usual.concurrency)
    agent := text "HTTP_USER_AGENT" usual.agent
    timeout := timeout.getD usual.timeout }

end Config

end Gleaner
