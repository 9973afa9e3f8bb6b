import StateCheck.Report.Page

/-!
Pages are safe from their texts: what a text says never changes the markup around it. How many
results a report has, whether it was cancelled, whether it has a source and how many entries its
environment has settle its markup.
-/

namespace StateCheck

namespace Html

/-! ### Escaped texts -/

/-- Characters that start or end an element or the value of an attribute. -/
def isDelimiter (c : Char) : Bool := c == '<' || c == '>' || c == '"'

def delimiters (cs : List Char) : List Char := cs.filter isDelimiter

theorem delimiters_append (cs ds : List Char) :
    delimiters (cs ++ ds) = delimiters cs ++ delimiters ds := List.filter_append ..

/-- What the escaped form of a text stands for. -/
def unescape : List Char → List Char
  | '&' :: 'a' :: 'm' :: 'p' :: ';' :: cs => '&' :: unescape cs
  | '&' :: 'l' :: 't' :: ';' :: cs => '<' :: unescape cs
  | '&' :: 'g' :: 't' :: ';' :: cs => '>' :: unescape cs
  | '&' :: '#' :: '3' :: '9' :: ';' :: cs => '\'' :: unescape cs
  | '&' :: '#' :: '3' :: '4' :: ';' :: cs => '"' :: unescape cs
  | c :: cs => c :: unescape cs
  | [] => []

theorem unescape_cons {c : Char} (h : c ≠ '&') (cs : List Char) :
    unescape (c :: cs) = c :: unescape cs := by
  rw [unescape] <;> simp [h]

theorem delimiters_escapeChar (c : Char) : delimiters (escapeChar c) = [] := by
  fun_cases escapeChar c with
  | case6 c _ hlt hgt _ hquote => simpa [delimiters, isDelimiter] using ⟨⟨hlt, hgt⟩, hquote⟩
  | _ => rfl

theorem delimiters_escape (s : String) : delimiters (escape s) = [] := by
  simp only [escape, delimiters, List.filter_flatMap, List.flatMap_eq_nil_iff]
  exact fun c _ => delimiters_escapeChar c

theorem unescape_escapeChar (c : Char) (cs : List Char) :
    unescape (escapeChar c ++ cs) = c :: unescape cs := by
  fun_cases escapeChar c with
  | case6 c hamp => exact unescape_cons hamp cs
  | _ => rfl

/-- Escaped texts read as the texts themselves. -/
theorem unescape_escape (s : String) : unescape (escape s) = s.toList := by
  unfold escape
  induction s.toList with
  | nil => rfl
  | cons c cs ih => rw [List.flatMap_cons, unescape_escapeChar, ih]

/-! ### Markup and texts of a page -/

/-- The markup of a part; a hole where a text stands. -/
def Part.markup? : Part → Option String
  | markup s => some s
  | text _ => none

def Part.text? : Part → Option String
  | markup _ => none
  | text s => some s

/-- The markup of a page, with a hole for each of its texts. -/
def frame (parts : List Part) : List (Option String) := parts.map Part.markup?

def texts (parts : List Part) : List String := parts.filterMap Part.text?

/-- The frame with the escaped texts in its holes, one after the other. -/
def fill : List (Option String) → List String → List Char
  | [], _ => []
  | some m :: frame, texts => m.toList ++ fill frame texts
  | none :: frame, [] => fill frame []
  | none :: frame, s :: texts => escape s ++ fill frame texts

theorem fill_frame (parts : List Part) :
    fill (frame parts) (texts parts) = parts.flatMap Part.render := by
  induction parts with
  | nil => rfl
  | cons part parts ih =>
    rw [List.flatMap_cons, ← ih]
    cases part <;> rfl

theorem length_texts (parts : List Part) : (texts parts).length = (frame parts).count none := by
  induction parts with
  | nil => rfl
  | cons part parts ih =>
    cases part with
    | markup s => exact ih
    | text s => exact (congrArg Nat.succ ih).trans List.count_cons_self.symm

/-- Texts bring in no delimiters, whatever they are. -/
theorem delimiters_fill (frame : List (Option String)) (texts : List String) :
    delimiters (fill frame texts) =
      frame.flatMap fun m => delimiters (m.elim [] String.toList) := by
  fun_induction fill frame texts with
  | case1 => rfl
  | case2 texts m frame ih => rw [delimiters_append, ih]; rfl
  | case3 frame ih => exact ih
  | case4 frame s texts ih => rw [delimiters_append, delimiters_escape, ih]; rfl

theorem frame_append (parts others : List Part) :
    frame (parts ++ others) = frame parts ++ frame others := List.map_append

theorem texts_append (parts others : List Part) :
    texts (parts ++ others) = texts parts ++ texts others := List.filterMap_append

theorem frame_within (before s after : String) :
    frame (within before s after) = [some before, none, some after] := rfl

theorem texts_markup (s : String) : texts [.markup s] = [] := rfl

theorem texts_within (before s after : String) : texts (within before s after) = [s] := rfl

/-- Where all members of lists give the same frame, lists of one length give the same frame. -/
theorem frame_flatMap {α : Type} {f : α → List Part} (h : ∀ a b, frame (f a) = frame (f b))
    {as bs : List α} (hlength : as.length = bs.length) :
    frame (as.flatMap f) = frame (bs.flatMap f) := by
  induction as generalizing bs with
  | nil => rw [List.length_eq_zero_iff.1 hlength.symm]
  | cons a as ih =>
    obtain ⟨b, bs, rfl⟩ := List.exists_cons_of_length_eq_add_one hlength.symm
    rw [List.flatMap_cons, List.flatMap_cons, frame_append, frame_append, h a b,
      ih (Nat.succ.inj hlength)]

theorem texts_flatMap {α : Type} (f : α → List Part) (as : List α) :
    texts (as.flatMap f) = as.flatMap fun a => texts (f a) := List.filterMap_flatMap

end Html

namespace Report

open Html

variable {r s : Report}

/-! ### Reports -/

/-- The texts in the row of a result. -/
def rowTexts (x : Result) : List String :=
  [x.verdict.name, x.verdict.capitals, x.target, x.assertion.displayName, x.assertion.path,
    x.actual, x.assertion.expected, x.error.elim "" Fault.text]

/-- All texts of a report, in the order in which its page shows them. -/
def texts (r : Report) : List String :=
  let o := r.outcome
  [r.title, r.title] ++ (if r.source = "" then [] else [r.source]) ++ [r.timestamp] ++
    r.environment.entries.flatMap (fun e => [e.1, e.2]) ++
    [toString o.total, toString (o.count .pass), toString (o.count .fail),
      toString (o.count .error), String.ofList (Decimal.fixed 1 (passRate o)), o.durationText] ++
    o.results.flatMap rowTexts

/-- Reports that differ in what their texts say, but not in what there is to tell. -/
structure Alike (r s : Report) : Prop where
  results : r.outcome.results.length = s.outcome.results.length
  cancelled : r.outcome.cancelled = s.outcome.cancelled
  environment : r.environment.entries.length = s.environment.entries.length
  source : r.source = "" ↔ s.source = ""

theorem frame_sourceNote (h : r.source = "" ↔ s.source = "") :
    frame (sourceNote r) = frame (sourceNote s) := by
  by_cases hs : s.source = ""
  · simp only [sourceNote, h.2 hs, hs, if_true]
  · simp only [sourceNote, mt h.1 hs, hs, if_false]
    rfl

theorem frame_environmentNote
    (h : r.environment.entries.length = s.environment.entries.length) :
    frame (environmentNote r) = frame (environmentNote s) :=
  frame_flatMap (fun _ _ => rfl) h

theorem frame_heading (h : Alike r s) : frame (heading r) = frame (heading s) := by
  simp only [heading, frame_append, frame_within, frame_sourceNote h.source,
    frame_environmentNote h.environment]

theorem frame_cards (r s : Report) : frame (cards r) = frame (cards s) := by
  simp only [cards, card, frame_append, frame_within]

theorem frame_rows (h : r.outcome.results.length = s.outcome.results.length) :
    frame (rows r) = frame (rows s) := by
  -- A page without results has a row that says so, which no other page has.
  have hempty : r.outcome.results.isEmpty = s.outcome.results.isEmpty := by
    rw [Bool.eq_iff_iff, List.isEmpty_iff_length_eq_zero, List.isEmpty_iff_length_eq_zero, h]
  unfold rows
  rw [hempty]
  split
  · rfl
  · exact frame_flatMap (fun _ _ => rfl) h

/-- Pages of alike reports differ in their texts alone. -/
theorem frame_page (h : Alike r s) : frame r.page = frame s.page := by
  simp only [page, head, table, cancelNote, frame_append, frame_within, frame_heading h,
    frame_cards r s, frame_rows h.results, h.cancelled]

theorem texts_sourceNote (r : Report) :
    Html.texts (sourceNote r) = if r.source = "" then [] else [r.source] := by
  unfold sourceNote
  split <;> rfl

theorem texts_rows (r : Report) : Html.texts (rows r) = r.outcome.results.flatMap rowTexts := by
  unfold rows
  split
  · next hnil => rw [List.isEmpty_iff.1 hnil]; rfl
  · exact texts_flatMap row _

theorem texts_cancelNote (r : Report) : Html.texts (cancelNote r) = [] := by
  unfold cancelNote
  split <;> rfl

theorem texts_environmentNote (r : Report) :
    Html.texts (environmentNote r) = r.environment.entries.flatMap fun e => [e.1, e.2] :=
  texts_flatMap _ _

theorem texts_page (r : Report) : Html.texts r.page = r.texts := by
  simp only [page, head, heading, cards, card, table, texts_append, texts_within, texts_markup,
    texts_sourceNote, texts_environmentNote, texts_cancelNote, texts_rows]
  simp only [texts, List.append_assoc, List.cons_append, List.nil_append, List.append_nil]

/-- What the texts of a report say never changes its markup: the pages of alike reports have the
same delimiters in the same order. Each is the markup of the other with its own texts in the holes,
where a text shows no delimiter and still reads as itself. -/
theorem html_alike (h : Alike r s) :
    delimiters r.html.toList = delimiters s.html.toList ∧
    r.html.toList = fill (frame s.page) r.texts ∧
    (frame s.page).count none = r.texts.length ∧
    ∀ t ∈ r.texts, delimiters (escape t) = [] ∧ unescape (escape t) = t.toList := by
  have hfill (r : Report) : r.html.toList = fill (frame r.page) r.texts := by
    rw [html, render, String.toList_ofList, ← fill_frame, texts_page]
  have hframe := frame_page h
  refine ⟨?_, ?_, ?_, fun t _ => ⟨delimiters_escape t, unescape_escape t⟩⟩
  · rw [hfill r, hfill s, delimiters_fill, delimiters_fill, hframe]
  · rw [← hframe, hfill r]
  · rw [← hframe, ← length_texts, texts_page]

/-- A report whose texts try to bring in markup of their own. -/
def hostile : Report where
  outcome := ⟨[⟨⟨"/a\"><b>", some ⟨.equals, .text "<i>"⟩, "<!--", ""⟩, false, "\" onclick=\"x",
    some (.plain "</td>"), "<script>"⟩], .zero, true⟩
  title := "</title><script>alert('x')</script>"
  source := "\"><img src=x>"
  timestamp := "&lt;"
  environment := ⟨[("<b>", "</b>")], by decide⟩

/-- A report that tells as much in plain words. -/
def plain : Report where
  outcome := ⟨[⟨⟨"/a", none, "", ""⟩, true, "up", none, "leaf1"⟩], .zero, true⟩
  title := "Fabric"
  source := "lab.yaml"
  timestamp := "today"
  environment := ⟨[("inventory", "lab")], by decide⟩

theorem hostile_alike_plain : Alike hostile plain := ⟨rfl, rfl, rfl, by decide⟩

theorem html_alike_hostile :
    Alike hostile plain ∧ delimiters hostile.html.toList = delimiters plain.html.toList ∧
    hostile.html.toList = fill (frame plain.page) hostile.texts ∧
    (frame plain.page).count none = hostile.texts.length ∧
    ∀ t ∈ hostile.texts, delimiters (escape t) = [] ∧ unescape (escape t) = t.toList :=
  ⟨hostile_alike_plain, html_alike hostile_alike_plain⟩

end Report

end StateCheck
