import StateCheck.Proofs.Baseline.Confirmation

/-!
Lists of entries that devices report, and assertions about a leaf in the state of each entry. They
expect what the list says of the leaf, and an empty text if it says nothing.
-/

namespace StateCheck.Baseline

variable {s : Source} {doc e : Json.Value} {path name key : String}
  {leaf : Option Json.Value}

/-! ### Objects -/

theorem ask_of_isObject (h : isObject e = true) : ask e name = .ok (e.get? name) := by
  cases e with
  | object members => rfl
  | _ => cases h

theorem ask_of_not_isObject (h : isObject e = false) : ask e name = .error .notMapping := by
  cases e with
  | object members => cases h
  | _ => rfl

theorem isObject_of_mem_entries (h : e ∈ entries doc name) : isObject e = true := by
  have hlist (ms : List (String × Json.Value)) (h : e ∈ listAmong name ms) : isObject e = true := by
    fun_induction listAmong name ms with
    | case1 => cases h
    | case2 => exact (List.mem_filter.1 h).2
    | case3 _ _ _ _ ih => exact ih h
    | case4 _ _ _ ih => exact ih h
  cases doc with
  | object members => exact hlist members h
  | _ => cases h

theorem entries_of_not_isObject (h : isObject doc = false) : entries doc name = [] := by
  cases doc with
  | object members => cases h
  | _ => rfl

theorem askText_of_isObject (h : isObject e = true) :
    askText e name = .ok ((e.get? name).elim "" textOf) := by
  unfold askText
  rw [ask_of_isObject h]
  rfl

/-- The text by which an entry goes: its own or else that of its state. -/
def labelOf (key : String) (e : Json.Value) : String :=
  if setText (e.get? key) = "" then setText ((stateOf e).get? key) else setText (e.get? key)

theorem textWithState_eq (he : isObject e = true) (hs : isObject (stateOf e) = true) :
    textWithState e (stateOf e) key = .ok (labelOf key e) := by
  unfold textWithState labelOf
  rw [ask_of_isObject he, ask_of_isObject hs]
  change (if setText (e.get? key) = "" then _ else _) = _
  split <;> rfl

/-! ### Lists that are found -/

section

variable {α β : Type} {f : α → Except Breakdown (List β)} {g : α → List β} {as : List α}

/-- What is found for the listed ones is gathered if nothing is found for the others. -/
theorem gather_filter {p : α → Bool} (h : ∀ a ∈ as, f a = .ok (if p a then g a else [])) :
    gather f as = .ok ((as.filter p).flatMap g) := by
  induction as with
  | nil => rfl
  | cons a as ih =>
    obtain ⟨ha, has⟩ := List.forall_mem_cons.1 h
    rw [gather, ha, ih has, List.filter_cons]
    split <;> rfl

theorem gather_of_not_isObject {f : Json.Value → Except Breakdown (List β)}
    (h : isObject doc = false) : gather f (entries doc name) = .ok [] := by
  rw [entries_of_not_isObject h]
  rfl

/-- If only one error is made, it is made for some of the list or else the list is gone through. -/
theorem gather_cases {b : Breakdown} (h : ∀ a ∈ as, f a = .error b ∨ ∃ bs, f a = .ok bs) :
    (gather f as = .error b ∧ ∃ a ∈ as, f a = .error b) ∨
      (∃ bs, gather f as = .ok bs) ∧ ∀ a ∈ as, ∃ bs, f a = .ok bs := by
  induction as with
  | nil => exact .inr ⟨⟨[], rfl⟩, List.forall_mem_nil _⟩
  | cons a as ih =>
    obtain ⟨ha, has⟩ := List.forall_mem_cons.1 h
    rw [gather]
    obtain herror | ⟨first, hfirst⟩ := ha
    · rw [herror]
      exact .inl ⟨rfl, a, List.mem_cons_self, herror⟩
    · rw [hfirst]
      obtain ⟨hgather, a', ha', herror⟩ | ⟨⟨rest, hrest⟩, hall⟩ := ih has
      · rw [hgather]
        exact .inl ⟨rfl, a', List.mem_cons_of_mem _ ha', herror⟩
      · rw [hrest]
        exact .inr ⟨⟨first ++ rest, rfl⟩, List.forall_mem_cons.2 ⟨⟨first, hfirst⟩, hall⟩⟩

end

/-! ### Documents that are reported -/

/-- A document that is reported is found, unless nothing is in it. -/
theorem query_of_reports (area : Area) (h : s.Reports path doc) :
    (area.query path s).outcome = .ok (some doc) ∨
      (area.query path s).outcome = .ok none ∧ isObject doc = false := by
  obtain ⟨answer, text, hanswer, hfound, htext, rfl⟩ := h
  have hfetch : (Survey.fetch path s).outcome = .ok (.ok answer) := congrArg Except.ok hanswer
  have hchecked : (Survey.checked (Device.Value.textOf answer.value) s).outcome = .ok text :=
    mapError_eq_ok_iff.2 htext
  unfold Area.query
  rw [Survey.outcome_bind, hfetch]
  dsimp only [Except.bind]
  rw [if_pos hfound, Survey.outcome_bind, hchecked]
  dsimp only [Except.bind]
  split
  · next hempty =>
    subst hempty
    exact .inr ⟨rfl, rfl⟩
  · cases hd : decode text with
    | null => exact .inr ⟨rfl, rfl⟩
    | _ => exact .inl rfl

theorem query_of_not_found (area : Area) {answer : Device.Answer} (h : s.answer path = .ok answer)
    (hfound : ¬answer.found = true) : (area.query path s).outcome = .ok none := by
  have hfetch : (Survey.fetch path s).outcome = .ok (.ok answer) := congrArg Except.ok h
  unfold Area.query
  rw [Survey.outcome_bind, hfetch]
  dsimp only [Except.bind]
  rw [if_neg hfound]
  rfl

/-- A failed request means that nothing is there, or is told about. -/
theorem query_of_failure (area : Area) {f : Failure} {cause : Option Fault}
    (h : s.answer path = .error (.failure f cause)) (hkind : f.kind = .fetch) :
    (area.query path s).outcome =
      if area.isAbsent f cause then .ok none
      else .error (area.queryFailure path f s.address (.failure f cause)) := by
  have hfetch : (Survey.fetch path s).outcome = .ok (.error (.failure f cause)) :=
    congrArg Except.ok h
  unfold Area.query
  rw [Survey.outcome_bind, hfetch]
  dsimp only [Except.bind]
  rw [if_pos hkind]
  split <;> rfl

/-- What is asserted on a device that reports a document depends on that document alone. -/
theorem outcome_of_reports {area : Area}
    {assertions : Json.Value → Except Breakdown (List Assertion)} (h : s.Reports path doc)
    (hempty : isObject doc = false → assertions doc = .ok []) :
    ((do
      match ← area.query path with
      | none => pure []
      | some doc => Survey.checked (assertions doc) : Survey (List Assertion)) s).outcome =
        (assertions doc).mapError .breakdown := by
  rw [Survey.outcome_bind]
  obtain hquery | ⟨hquery, hnot⟩ := query_of_reports area h
  · rw [hquery]
    rfl
  · rw [hquery, hempty hnot]
    rfl

/-! ### Lists of entries -/

/-- A list of entries, each with a leaf in its state about which something is asserted. -/
structure Listing where
  /-- Where the list is asked for. -/
  path : String
  list : String
  /-- The name of the texts by which the entries go. -/
  key : String
  leaf : String
  /-- Whether an entry with this text and this state counts. -/
  admits : String → Json.Value → Bool
  /-- The path of the leaf as assertions have it. -/
  short : String → String
  /-- The canonical path of the leaf. -/
  canonical : String → String
  title : String → String

namespace Listing

def label (l : Listing) (e : Json.Value) : String := labelOf l.key e

def isListed (l : Listing) (e : Json.Value) : Bool :=
  l.label e ≠ "" && l.admits (l.label e) (stateOf e)

/-- The entries about which something is asserted. -/
def listed (l : Listing) (doc : Json.Value) : List Json.Value :=
  (entries doc l.list).filter l.isListed

def leafOf? (l : Listing) (e : Json.Value) : Option Json.Value := (stateOf e).get? l.leaf

def status (l : Listing) (e : Json.Value) : String := (l.leafOf? e).elim "" textOf

def assertion (l : Listing) (e : Json.Value) : Assertion :=
  equality (l.title (l.label e) ++ " is " ++ l.status e) (l.short (l.label e)) (l.status e)

end Listing

/-- The device shows a leaf that is a text, and has no path for any other. -/
def Source.Serves (s : Source) (path : String) (leaf : Option Json.Value) : Prop :=
  s.answer path = .ok (match leaf with
    | some (.string text) => ⟨Device.Value.ofJson? (.string text), true⟩
    | _ => Device.missing)

theorem shows_iff_of_serves (h : s.Serves path leaf) :
    s.Shows path (leaf.elim "" textOf) ↔ ∃ text, leaf = some (.string text) := by
  constructor
  · rintro ⟨answer, hanswer, hfound, -⟩
    cases h.symm.trans hanswer
    split at hfound
    · exact ⟨_, rfl⟩
    · cases hfound
  · rintro ⟨text, rfl⟩
    exact ⟨_, h, rfl, rfl⟩

theorem serves_ofTexts {texts : List (String × String)} {text : String}
    (h : texts.lookup path = some text) :
    (Source.ofTexts texts).Serves path (some (.string text)) := by
  unfold Source.ofTexts Source.Serves
  dsimp only
  rw [h]
  rfl

namespace Listing

variable {l : Listing}

/-- The device reports the list, and answers for the leaf of every entry as the list has it. -/
structure Mirrored (l : Listing) (s : Source) (doc : Json.Value) : Prop where
  reports : s.Reports l.path doc
  state : ∀ e ∈ entries doc l.list, isObject (stateOf e) = true
  label : ∀ e ∈ l.listed doc, ∀ c ∈ (l.label e).toList, c ≠ '[' ∧ c ≠ ']'
  serves : ∀ e ∈ l.listed doc, s.Serves (l.canonical (l.label e)) (l.leafOf? e)

/-- Where its path is the canonical one, an assertion passes exactly if the leaf is a text. -/
theorem Mirrored.confirms_iff (h : l.Mirrored s doc) (he : e ∈ l.listed doc)
    (hexpand : Path.expand (l.short (l.label e)) = l.canonical (l.label e)) :
    s.Confirms (l.assertion e) ↔ ∃ text, l.leafOf? e = some (.string text) := by
  unfold assertion
  rw [confirms_equality_iff, hexpand]
  exact shows_iff_of_serves (h.serves e he)

theorem listed_singleton (hentries : entries doc l.list = [e]) (h : l.isListed e = true) :
    l.listed doc = [e] := by
  rw [listed, hentries, List.filter_singleton, h]
  rfl

theorem mirrored_singleton (hreports : s.Reports l.path doc) (hentries : entries doc l.list = [e])
    (hstate : isObject (stateOf e) = true) (hlabel : ∀ c ∈ (l.label e).toList, c ≠ '[' ∧ c ≠ ']')
    (hserves : s.Serves (l.canonical (l.label e)) (l.leafOf? e)) : l.Mirrored s doc := by
  have hsole {e' : Json.Value} (he : e' ∈ l.listed doc) : e' = e := by
    have hmem := (List.mem_filter.1 he).1
    rw [hentries] at hmem
    exact List.mem_singleton.1 hmem
  refine ⟨hreports, fun e' he => ?_, fun e' he => ?_, fun e' he => ?_⟩
  · rw [hentries] at he
    rw [List.mem_singleton.1 he]
    exact hstate
  · rw [hsole he]
    exact hlabel
  · rw [hsole he]
    exact hserves

end Listing

end StateCheck.Baseline
