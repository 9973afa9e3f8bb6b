import StateCheck.Device.Client
import StateCheck.Proofs.Assertion.Reading
import StateCheck.Yaml.Load

/-!
Files that are read can be run: which entries of its document a file comes from, and what the work
on its targets can rely on.
-/

namespace StateCheck

open Yaml.Value

variable {path value : String} {found : Bool} {doc entry : Yaml.Value}

/-! ### Paths that can be asked for -/

namespace Device.Client

variable {lib : Library} {c : Client} {timeout : Option Binary64} {cancellation : Option Bool}
  {response : Response} {e : Failure} {cause : Option Fault}

theorem kind_of_error {α : Type} {kind : FailureKind} {message : String}
    {details : List (String × String)} {origin : Option Fault}
    (h : (.error (.failure (c.failure kind message details) origin) : Except Fault α) =
      .error (.failure e cause)) : e.kind = kind := by
  simp only [Except.error.injEq, Fault.failure.injEq] at h
  rw [← h.1]
  rfl

theorem settle_kind (h : c.settle path timeout response = .error (.failure e cause)) :
    e.kind = .fetch := by
  cases response with
  | document doc =>
    simp only [settle] at h
    cases hu : firstUpdate doc with
    | ok answer =>
      rw [hu] at h
      cases h
    | error b =>
      rw [hu] at h
      cases h
  | failed reason =>
    simp only [settle] at h
    split at h
    · cases h
    · exact kind_of_error h
  | silent sent cancels => cases h

theorem receive_kind {listens : Bool}
    (h : c.receive path timeout listens response = .error (.failure e cause)) :
    e.kind = .fetch := by
  unfold receive at h
  split at h
  · cases h
  · exact settle_kind h
  · exact kind_of_error h
  · exact kind_of_error h

/-- To ask for a path that can be read fails in the session or in the request only. -/
theorem fetch_kind (hread : ∃ elements, Path.read path = .ok elements)
    (h : (fetch lib path timeout cancellation c).outcome = .error (.failure e cause)) :
    e.kind = .connect ∨ e.kind = .fetch := by
  obtain ⟨elements, hread⟩ := hread
  unfold fetch at h
  split at h
  · exact .inl (kind_of_error h)
  · split at h
    · exact .inr (kind_of_error h)
    · rw [hread] at h
      exact .inr (receive_kind h)

end Device.Client

/-! ### Predicates that can be weighed -/

namespace Assertion

variable {a : Assertion} {r : Result} {e : Fault}

/-- What the evaluation of an assertion with a sound operand complains of. -/
def complaints : List String :=
  ["no assertion type specified", "path does not exist", "invalid regex: <regex error>",
    "value is not numeric"]

/-- The result complains of nothing, or of one of these. -/
def Complains (r : Result) : Prop :=
  r.error = none ∨
    ∃ message ∈ complaints, ∃ details, r.error = some (.ofFailure (.of .predicate message details))

theorem complains_judged (a : Assertion) (value : String) (passed : Bool) :
    Complains (a.judged value passed) := .inl rfl

theorem complains_refused {message : String} (h : message ∈ complaints) (a : Assertion)
    (value : String) (details : List (String × String)) :
    Complains (a.refused value message details) := .inr ⟨message, h, details, rfl⟩

theorem complains_search {pattern : String} (h : a.search pattern value = .ok r) :
    Complains r := by
  unfold search at h
  split at h
  · cases h
    exact complains_judged ..
  · cases h
    exact complains_refused (by decide) ..
  · cases h
  · cases h

theorem complains_weigh {operand : String} (h : (Numeral.readFloat? operand.toList).isSome = true)
    (kind : Predicate.Kind) : Complains (a.weigh kind operand value) := by
  unfold weigh
  split
  · exact complains_refused (by decide) ..
  · split
    · next hnone =>
      rw [hnone] at h
      cases h
    · exact complains_judged ..

theorem complains_apply {p : Predicate} (hp : p.WellFormed) (hf : p.kind.isFlag = false)
    (h : a.apply p value = .ok r) : Complains r := by
  obtain ⟨kind, operand⟩ := p
  cases operand with
  | flag b =>
    have hflag : kind.isFlag = true := hp
    rw [hf] at hflag
    cases hflag
  | text s =>
    cases kind with
    | equals | contains =>
      cases h
      exact complains_judged ..
    | fits => exact complains_search h
    | above | below | atLeast | atMost =>
      simp only [apply, Except.ok.injEq] at h
      rw [← h]
      exact complains_weigh (hp.2 rfl) _
    | present | absent => cases hf

theorem isFlag_eq_false {p : Predicate} (hpresent : ∀ operand, p ≠ ⟨.present, operand⟩)
    (habsent : ∀ operand, p ≠ ⟨.absent, operand⟩) : p.kind.isFlag = false := by
  obtain ⟨kind, operand⟩ := p
  cases kind with
  | present => exact absurd rfl (hpresent operand)
  | absent => exact absurd rfl (habsent operand)
  | _ => rfl

/-- An assertion with a sound predicate never complains of its operand. -/
theorem complains_evaluate (hp : ∀ p, a.predicate = some p → p.WellFormed)
    (h : a.evaluate value found = .ok r) : Complains r := by
  unfold evaluate at h
  split at h
  · cases h
    exact complains_judged ..
  · cases h
    exact complains_judged ..
  · next hpresent habsent =>
    split at h
    · split at h
      · next p hactive =>
        have hflag : p.kind.isFlag = false :=
          isFlag_eq_false (fun operand heq => hpresent operand (heq ▸ hactive))
            fun operand heq => habsent operand (heq ▸ hactive)
        exact complains_apply (hp p (Option.filter_eq_some_iff.1 hactive).1) hflag h
      · cases h
        exact complains_refused (by decide) ..
    · cases h
      exact complains_refused (by decide) ..

theorem Complains.message_ne {f : Failure} {cause : Option Fault} (h : Complains r)
    (he : r.error = some (.failure f cause)) : f.message ≠ "threshold is not numeric" := by
  rcases h with hnone | ⟨message, hmem, details, herror⟩
  · rw [hnone] at he
    cases he
  · rw [herror] at he
    cases he
    intro heq
    rw [show message = "threshold is not numeric" from heq] at hmem
    exact absurd hmem (by decide)

/-- What the work on an assertion relies on: its path is canonical and can be asked for, and its
predicate can be weighed against every value. -/
structure Runnable (a : Assertion) : Prop where
  rooted : a.path.toList.head? = some '/'
  fixed : Path.expand a.path = a.path
  readable : ∃ elements, Path.read a.path = .ok elements
  fetched : ∀ (lib : Device.Library) (c : Device.Client) (timeout : Option Binary64)
    (cancellation : Option Bool) (e : Failure) (cause : Option Fault),
    (Device.Client.fetch lib a.path timeout cancellation c).outcome = .error (.failure e cause) →
      e.kind ≠ .malformedPath
  predicate : ∀ p, a.predicate = some p → p.WellFormed
  weighed : ∀ (value : String) (found : Bool) (r : Result) (e : Failure) (cause : Option Fault),
    a.evaluate value found = .ok r → r.error = some (.failure e cause) →
      e.message ≠ "threshold is not numeric"

theorem WellFormed.runnable (h : a.WellFormed) : a.Runnable where
  rooted := h.rooted
  fixed := Path.expand_of_rooted h.rooted
  readable := h.readable
  fetched lib c timeout cancellation e cause hfetch heq := by
    rcases Device.Client.fetch_kind h.readable hfetch with hk | hk <;> rw [hk] at heq <;> cases heq
  predicate := h.predicate
  weighed value found r e cause hr he := (complains_evaluate h.predicate hr).message_ne he

/-! ### Entries -/

/-- The assertion is the one that an entry of a document gives. -/
structure IsEntry (entry : Yaml.Value) (a : Assertion) : Prop where
  mapping : ∃ members, entry = .mapping members
  path : ∃ path, labelText (entry.get? "path") = .ok path ∧ path ≠ "" ∧ a.path = Path.expand path
  predicate : Predicate.select entry = .ok a.predicate
  name : labelText (entry.get? "name") = .ok a.name
  description : labelText (entry.get? "description") = .ok a.description

end Assertion

/-- The target is the one that an entry of a document gives, with one assertion for each entry of
its own. -/
structure Target.IsEntry (entry : Yaml.Value) (t : Target) : Prop where
  mapping : ∃ members, entry = .mapping members
  host : AssertionFile.hostOf entry = .ok t.host
  username : labelText (entry.get? "username") = .ok t.credentials.username
  password : labelText (entry.get? "password") = .ok t.credentials.password
  insecure : t.credentials.insecure = (entry.truthy? "insecure").isSome
  assertions : ∃ items, entry.items? "assertions" = some items ∧
    List.Forall₂ Assertion.IsEntry items t.assertions

namespace AssertionFile

variable {f : AssertionFile} {i j : Nat} {host : String}

/-- The file has one target for each entry of a document; a document that counts as unset has
none. -/
def IsOf (doc : Yaml.Value) (f : AssertionFile) : Prop :=
  (doc.isTruthy = true → ∃ members, doc = .mapping members) ∧
    ∃ items, doc.items? "targets" = some items ∧ List.Forall₂ Target.IsEntry items f.targets

theorem isEntry_of_readAssertion {a : Assertion}
    (h : (readAssertion i host j entry).outcome = .ok a) : a.IsEntry entry := by
  obtain ⟨hmapping, path, hpath, hne, ha, -, hselect, -, hname, hdescription⟩ :=
    readAssertion_eq_ok_iff.1 h
  exact ⟨hmapping, ⟨path, hpath, hne, ha⟩, hselect, hname, hdescription⟩

theorem isEntry_of_readTarget {t : Target} (h : (readTarget i entry).outcome = .ok t) :
    t.IsEntry entry := by
  obtain ⟨hmapping, hhost, -, hu, hp, hinsecure, items, hitems, has⟩ := readTarget_eq_ok_iff.1 h
  have hentries := Noted.forall₂_of_eachFrom (R := Assertion.IsEntry)
    (fun _ _ _ => isEntry_of_readAssertion) has
  exact ⟨hmapping, hhost, hu, hp, hinsecure, items, hitems, hentries⟩

theorem items?_of_not_truthy (h : doc.isTruthy = false) (name : String) :
    doc.items? name = some [] := by
  have hget : doc.get? name = none := by
    cases doc with
    | mapping members =>
      cases members with
      | nil => rfl
      | cons m ms => cases h
    | _ => rfl
  rw [items?, truthy?, hget]
  rfl

theorem isOf_ofDocument (h : (ofDocument doc).outcome = .ok f) : f.IsOf doc := by
  cases hset : doc.isTruthy with
  | true =>
    obtain ⟨hmapping, items, hitems, htargets⟩ := (ofDocument_eq_ok_iff hset).1 h
    have hentries := Noted.forall₂_of_eachFrom (R := Target.IsEntry)
      (fun _ _ _ => isEntry_of_readTarget) htargets
    exact ⟨fun _ => hmapping, items, hitems, hentries⟩
  | false =>
    have hempty : ofDocument doc = pure ⟨[]⟩ := by simp [ofDocument, hset]
    rw [hempty] at h
    cases h
    exact ⟨fun htruthy => by simp [hset] at htruthy, [], items?_of_not_truthy hset _, .nil⟩

/-- Whatever text a file is read from: its targets and their assertions are the entries of the
document, one for one and in their order, and all of them can be run. -/
theorem runnable_of_read {yaml : Yaml.Reader} {text : List Char}
    (h : (read yaml text).outcome = .ok f) :
    (∃ doc, yaml text = .ok doc ∧ f.IsOf doc) ∧
      ∀ t ∈ f.targets, t.host ≠ "" ∧ ∀ a ∈ t.assertions, a.Runnable := by
  obtain ⟨doc, hload, hdoc⟩ := read_eq_ok_iff.1 h
  refine ⟨⟨doc, hload, isOf_ofDocument hdoc⟩, fun t ht => ?_⟩
  have hwell := read_wellFormed h t ht
  exact ⟨hwell.host, fun a ha => (hwell.assertions a ha).runnable⟩

/-- A file with a short path, a threshold and a predicate that is switched off. -/
def mixedText : List Char :=
  "targets: [{address: r, assertions: [{path: lldp/x, gt: 1e3}, {path: a, absent: no}]}]".toList

def mixed : AssertionFile :=
  ⟨[⟨"r", ⟨"", "", false⟩, [⟨"/lldp/x", some ⟨.above, .text "1e3"⟩, "", ""⟩,
    ⟨"/a", some ⟨.absent, .flag false⟩, "", ""⟩]⟩]⟩

theorem read_mixed : (read Yaml.load mixedText).outcome = .ok mixed :=
  toOption_eq_some_iff.1 (by decide +kernel)

theorem runnable_mixed : (read Yaml.load mixedText).outcome = .ok mixed ∧
    (∃ doc, Yaml.load mixedText = .ok doc ∧ mixed.IsOf doc) ∧
      ∀ t ∈ mixed.targets, t.host ≠ "" ∧ ∀ a ∈ t.assertions, a.Runnable :=
  ⟨read_mixed, runnable_of_read read_mixed⟩

end AssertionFile

end StateCheck
