import StateCheck.Json.Writer
import StateCheck.Run.Basic
import StateCheck.Table

/-!
Reports on runs: the line of each result, the summary, and the JSON document.
-/

namespace StateCheck

namespace Verdict

def icon : Verdict → String
  | pass => "✓"
  | fail | error => "✗"

def capitals : Verdict → String
  | pass => "PASS"
  | fail => "FAIL"
  | error => "ERROR"

end Verdict

/-- What is reported on a run, with the texts that stand at the head of the report. -/
structure Report where
  outcome : Run.Outcome
  title : String
  source : String
  timestamp : String
  environment : Table String

namespace Report

def standardTitle : String := "netsert Assertion Report"

/-! ### Lines -/

/-- The text without its end: the first `count` characters, or all but the last ones if `count`
is negative. -/
def leading (count : Int) (cs : List Char) : List Char :=
  cs.take (if count < 0 then (cs.length + count).toNat else count.toNat)

/-- The name, with dots in place of its end if it is longer than the limit. -/
def shortened (name : String) (limit : Int) : String :=
  let cs := name.toList
  if cs.length ≤ limit then name else String.ofList (leading (limit - 3) cs) ++ "..."

def nameLimit : Int := 60

def detailLine (label text : String) : List String :=
  if text = "" then [] else ["    " ++ label ++ ": " ++ text]

/-- The lines of a result; what it found and expected is told only if it did not pass. -/
def resultLines (r : Result) (verbose : Bool) : List String :=
  (r.verdict.icon ++ " [" ++ r.verdict.capitals ++ "] " ++
      shortened r.assertion.displayName nameLimit ++ " @ " ++ r.target) ::
    if verbose && r.verdict != .pass then
      (r.error.map fun e => "    error: " ++ e.text).toList ++
        detailLine "actual" r.actual ++ detailLine "expected" r.assertion.expected
    else []

def resultText (r : Result) (verbose : Bool) : String :=
  Text.joinWith "\n" (resultLines r verbose)

/-- The lines at the end of a run. -/
def summaryLines (o : Run.Outcome) : List String :=
  ["Completed in " ++ o.durationText, "  Total:  " ++ toString o.total,
    "  Passed: " ++ toString (o.count .pass), "  Failed: " ++ toString (o.count .fail)] ++
    (if o.count .error = 0 then [] else ["  Errors: " ++ toString (o.count .error)]) ++
    if o.cancelled then ["  (cancelled before completion)"] else []

def summaryText (o : Run.Outcome) : String := Text.joinWith "\n" (summaryLines o)

/-! ### The JSON document -/

def summaryMembers (r : Report) : List (String × Json.Value) :=
  let o := r.outcome
  [("file", .string r.source), ("total", .int o.total), ("passed", .int (o.count .pass)),
    ("failed", .int (o.count .fail)), ("errors", .int (o.count .error)),
    ("duration", .string o.durationText), ("success", .bool o.succeeded),
    ("cancelled", .bool o.cancelled)]

def toJson (r : Report) : Json.Value :=
  .object [("summary", .object r.summaryMembers),
    ("results", .array (r.outcome.results.map fun x => .object x.members))]

/-- The JSON text of a report; without a width of indentation it is one line. -/
def jsonText (r : Report) (indent : Option Nat) : String :=
  r.toJson.text (indent.elim .spaced .indented)

end Report

end StateCheck
