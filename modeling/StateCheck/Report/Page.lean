import StateCheck.Report.Basic
import StateCheck.Report.Html

/-!
The HTML page of a report.
-/

namespace StateCheck.Report

open StateCheck.Html

def styleRule (selector declarations : String) : String :=
  "    " ++ selector ++ " \x7b " ++ declarations ++ " \x7d\n"

def style : String :=
  "  <style>\n" ++
  styleRule "body" ("font-family: -apple-system, \"Segoe UI\", Helvetica, Arial, sans-serif; " ++
    "margin: 2rem; color: #222;") ++
  styleRule "h1" "margin-bottom: 0.25rem;" ++
  styleRule ".meta" "color: #666; font-size: 0.9rem;" ++
  styleRule ".summary" "display: flex; gap: 1.5rem; margin: 1.5rem 0;" ++
  styleRule ".card" ("border: 1px solid #ddd; border-radius: 6px; padding: 0.75rem 1.25rem; " ++
    "min-width: 6rem;") ++
  styleRule ".card .value" "font-size: 1.6rem; font-weight: bold;" ++
  styleRule "table" "border-collapse: collapse; width: 100%; font-size: 0.9rem;" ++
  styleRule "th, td" ("border-bottom: 1px solid #eee; padding: 0.4rem 0.6rem; " ++
    "text-align: left; vertical-align: top;") ++
  styleRule "th" "background: #f6f6f6;" ++
  styleRule "code" "font-size: 0.85rem;" ++
  styleRule ".pass" "color: #1a7f37;" ++
  styleRule ".fail" "color: #cf222e;" ++
  styleRule ".error" "color: #9a6700;" ++
  "  </style>\n"

def head (r : Report) : List Part :=
  within
    "<!DOCTYPE html>\n<html lang=\"en\">\n<head>\n  <meta charset=\"utf-8\">\n  <title>" r.title
    ("</title>\n" ++ style ++ "</head>\n<body>\n")

def sourceNote (r : Report) : List Part :=
  if r.source = "" then [] else within "File: <code>" r.source "</code> &middot; "

def environmentNote (r : Report) : List Part :=
  r.environment.entries.flatMap fun e =>
    [.markup " &middot; ", .text e.1, .markup ": ", .text e.2]

def heading (r : Report) : List Part :=
  within "  <h1>" r.title "</h1>\n  <div class=\"meta\">\n    " ++ sourceNote r ++
    within "Generated " r.timestamp "\n    " ++ environmentNote r ++ [.markup "\n  </div>\n\n"]

/-- The share of results that passed, in hundredths. -/
def passRate (o : Run.Outcome) : Binary64 :=
  if o.total = 0 then .zero
  else (Binary64.ofQuotient false (o.count .pass) o.total).mul (.ofNat 100)

def card (kind label text unit : String) : List Part :=
  within ("    <div class=\"card" ++ kind ++ "\"><div>" ++ label ++ "</div><div class=\"value\">")
    text (unit ++ "</div></div>\n")

def cards (r : Report) : List Part :=
  let o := r.outcome
  [.markup "  <div class=\"summary\">\n"] ++
    card "" "Total" (toString o.total) "" ++
    card " pass" "Passed" (toString (o.count .pass)) "" ++
    card " fail" "Failed" (toString (o.count .fail)) "" ++
    card " error" "Errors" (toString (o.count .error)) "" ++
    card "" "Pass rate" (String.ofList (Decimal.fixed 1 (passRate o))) "%" ++
    card "" "Duration" o.durationText "" ++
    [.markup "  </div>\n  "]

def cancelNote (r : Report) : List Part :=
  if r.outcome.cancelled then
    [.markup ("<p class=\"error\">Run was cancelled before completion; " ++
      "results are partial.</p>")]
  else []

def cell (text : String) : List Part := within "        <td>" text "</td>\n"

def row (r : Result) : List Part :=
  within "\n      <tr>\n        <td class=\"" r.verdict.name "\">" ++
    [.text r.verdict.capitals, .markup "</td>\n"] ++ cell r.target ++
    cell r.assertion.displayName ++
    within "        <td><code>" r.assertion.path "</code></td>\n" ++ cell r.actual ++
    cell r.assertion.expected ++ cell (r.error.elim "" Fault.text) ++
    [.markup "      </tr>\n    "]

def emptyRow : List Part :=
  [.markup "\n      <tr><td colspan=\"7\">No results recorded.</td></tr>\n    "]

def rows (r : Report) : List Part :=
  if r.outcome.results.isEmpty then emptyRow else r.outcome.results.flatMap row

def columns : List String :=
  ["Status", "Target", "Name", "Path", "Actual", "Expected", "Error"]

def table (r : Report) : List Part :=
  [.markup ("\n\n  <table>\n    <thead>\n      <tr>" ++
    String.join (columns.map fun c => "<th>" ++ c ++ "</th>") ++
    "</tr>\n    </thead>\n    <tbody>\n    ")] ++
    rows r ++ [.markup "\n    </tbody>\n  </table>\n"]

/-- The parts of the page of a report. -/
def page (r : Report) : List Part :=
  head r ++ heading r ++ cards r ++ cancelNote r ++ table r ++ [.markup "</body>\n</html>"]

def html (r : Report) : String := render r.page

/-- Writes the page of a report, together with the directories that it is to lie in. -/
def save (r : Report) (path : String) (files : Files) : Except Files.Refusal Files := do
  let files ← files.makeParents path
  files.write (Files.normal path) r.html

end StateCheck.Report
