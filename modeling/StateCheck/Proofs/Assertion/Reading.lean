import StateCheck.Proofs.Assertion.Selection
import StateCheck.Proofs.Path.Short

/-!
What an assertion file is read from, and what holds of every file that is read.
-/

namespace StateCheck

open Yaml.Value

/-! ### Readers -/

namespace AssertionFile

variable {place host : String} {doc : Yaml.Value} {p : Option Predicate} {i j : Nat}
  {a : Assertion} {t : Target} {f : AssertionFile}

theorem readPredicate_eq_ok_iff : (readPredicate place host doc).outcome = .ok p ↔
    Predicate.select doc = .ok p ∧ Predicate.badThreshold? p = none := by
  rw [Predicate.readPredicate_outcome, bind_eq_ok_iff]
  simp only [mapError_eq_ok_iff]
  constructor
  · rintro ⟨selected, hselect, h⟩
    cases hbad : Predicate.badThreshold? selected with
    | none =>
      rw [hbad] at h
      cases h
      exact ⟨hselect, hbad⟩
    | some x =>
      rw [hbad] at h
      cases h
  · rintro ⟨hselect, hbad⟩
    exact ⟨p, hselect, by rw [hbad]⟩

theorem readAssertion_eq_ok_iff : (readAssertion i host j doc).outcome = .ok a ↔
    (∃ ms, doc = .mapping ms) ∧ ∃ path, labelText (doc.get? "path") = .ok path ∧ path ≠ "" ∧
      a.path = Path.expand path ∧ (∃ elements, Path.read a.path = .ok elements) ∧
      Predicate.select doc = .ok a.predicate ∧ Predicate.badThreshold? a.predicate = none ∧
      labelText (doc.get? "name") = .ok a.name ∧
      labelText (doc.get? "description") = .ok a.description := by
  unfold readAssertion
  cases doc with
  | mapping ms =>
    dsimp only
    simp only [Noted.outcome_bind, Noted.outcome_orBreakOff, bind_eq_ok_iff, mapError_eq_ok_iff]
    constructor
    · rintro ⟨path, hpath, h⟩
      split at h
      · cases h
      · next hne =>
        split at h
        · cases h
        · next elements hread =>
          simp only [Noted.outcome_bind, Noted.outcome_orBreakOff, Noted.outcome_pure,
            bind_eq_ok_iff, mapError_eq_ok_iff, readPredicate_eq_ok_iff, Except.ok.injEq] at h
          obtain ⟨p, ⟨hselect, hbad⟩, name, hname, description, hdescription, rfl⟩ := h
          exact ⟨⟨ms, rfl⟩, path, hpath, hne, rfl, ⟨elements, hread⟩, hselect, hbad, hname,
            hdescription⟩
    · rintro ⟨-, path, hpath, hne, ha, ⟨elements, hread⟩, hselect, hbad, hname, hdescription⟩
      refine ⟨path, hpath, ?_⟩
      rw [if_neg hne, ← ha, hread]
      simp only [Noted.outcome_bind, Noted.outcome_orBreakOff, Noted.outcome_pure,
        bind_eq_ok_iff, mapError_eq_ok_iff, readPredicate_eq_ok_iff]
      exact ⟨a.predicate, ⟨hselect, hbad⟩, a.name, hname, a.description, hdescription, rfl⟩
  | _ => simp [malformedOn]

theorem readTarget_eq_ok_iff : (readTarget i doc).outcome = .ok t ↔
    (∃ ms, doc = .mapping ms) ∧ hostOf doc = .ok t.host ∧ t.host ≠ "" ∧
      labelText (doc.get? "username") = .ok t.credentials.username ∧
      labelText (doc.get? "password") = .ok t.credentials.password ∧
      t.credentials.insecure = (doc.truthy? "insecure").isSome ∧
      ∃ items, doc.items? "assertions" = some items ∧
        (Noted.each (readAssertion i t.host) items).outcome = .ok t.assertions := by
  unfold readTarget
  cases doc with
  | mapping ms =>
    dsimp only
    simp only [Noted.outcome_bind, Noted.outcome_orBreakOff, bind_eq_ok_iff, mapError_eq_ok_iff]
    constructor
    · rintro ⟨host, hhost, h⟩
      split at h
      · cases h
      · next hne =>
        split at h
        · cases h
        · next items hitems =>
          simp only [Noted.outcome_bind, Noted.outcome_orBreakOff, Noted.outcome_pure,
            bind_eq_ok_iff, mapError_eq_ok_iff, Except.ok.injEq] at h
          obtain ⟨username, hu, password, hp, assertions, has, rfl⟩ := h
          exact ⟨⟨ms, rfl⟩, hhost, hne, hu, hp, rfl, items, hitems, has⟩
    · rintro ⟨-, hhost, hne, hu, hp, hinsecure, items, hitems, has⟩
      refine ⟨t.host, hhost, ?_⟩
      rw [if_neg hne, hitems, ← hinsecure]
      simp only [Noted.outcome_bind, Noted.outcome_orBreakOff, Noted.outcome_pure,
        bind_eq_ok_iff, mapError_eq_ok_iff]
      exact ⟨_, hu, _, hp, _, has, rfl⟩
  | _ => simp [malformed]

theorem ofDocument_eq_ok_iff (hdoc : doc.isTruthy = true) : (ofDocument doc).outcome = .ok f ↔
    (∃ ms, doc = .mapping ms) ∧ ∃ items, doc.items? "targets" = some items ∧
      (Noted.each readTarget items).outcome = .ok f.targets := by
  unfold ofDocument
  rw [hdoc]
  cases doc with
  | mapping ms =>
    simp only [Bool.not_true, Bool.false_eq_true, if_false]
    constructor
    · intro h
      split at h
      · cases h
      · next items hitems =>
        rw [Noted.outcome_map] at h
        obtain ⟨targets, htargets, rfl⟩ := map_eq_ok h
        exact ⟨⟨ms, rfl⟩, items, hitems, htargets⟩
    · rintro ⟨-, items, hitems, htargets⟩
      rw [hitems]
      dsimp only
      rw [Noted.outcome_map, htargets]
      rfl
  | _ => simp [malformed]

theorem read_eq_ok_iff {yaml : Yaml.Reader} {text : List Char} :
    (read yaml text).outcome = .ok f ↔
      ∃ doc, yaml text = .ok doc ∧ (ofDocument doc).outcome = .ok f := by
  unfold read
  cases yaml text with
  | ok doc => simp
  | error e => cases e <;> simp [malformed, Noted.breakOff, Noted.ofExcept]

end AssertionFile

/-! ### What is read -/

/-- A flag has a truth value to compare with, every other kind a text, and a numeric kind the text
of a number. -/
def Predicate.WellFormed (p : Predicate) : Prop :=
  match p.operand with
  | .flag _ => p.kind.isFlag = true
  | .text s => p.kind.isFlag = false ∧
      (p.kind.isNumeric = true → (Numeral.readFloat? s.toList).isSome = true)

structure Assertion.WellFormed (a : Assertion) : Prop where
  rooted : a.path.toList.head? = some '/'
  readable : ∃ elements, Path.read a.path = .ok elements
  predicate : ∀ p, a.predicate = some p → p.WellFormed

structure Target.WellFormed (t : Target) : Prop where
  host : t.host ≠ ""
  assertions : ∀ a ∈ t.assertions, a.WellFormed

theorem Predicate.wellFormed_of_select {doc : Yaml.Value} {p : Predicate}
    (h : select doc = .ok (some p)) (hbad : badThreshold? (some p) = none) : p.WellFormed := by
  rw [select_eq] at h
  split at h
  · cases h
    rfl
  · split at h
    · cases h
      rfl
    · split at h
      · next kind hk =>
        obtain ⟨s, -, hs⟩ := map_eq_ok h
        cases hs
        refine ⟨isFlag_iff.2 (List.mem_of_find?_eq_some hk), fun hn => ?_⟩
        simpa [badThreshold?, hn, Option.isSome_iff_ne_none] using hbad
      · next hk =>
        obtain ⟨kind, hkind, rfl⟩ := Option.map_eq_some_iff.1 (Except.ok.inj h)
        exact isFlag_of_mem_declared hk (List.mem_of_mem_head? hkind)

namespace AssertionFile

variable {i j : Nat} {host : String} {doc : Yaml.Value}

theorem readAssertion_wellFormed {a : Assertion}
    (h : (readAssertion i host j doc).outcome = .ok a) : a.WellFormed := by
  obtain ⟨-, path, -, -, hpath, hread, hselect, hbad, -, -⟩ := readAssertion_eq_ok_iff.1 h
  refine ⟨hpath ▸ Path.head?_expand path, hread, fun p hp => ?_⟩
  rw [hp] at hselect hbad
  exact Predicate.wellFormed_of_select hselect hbad

theorem readTarget_wellFormed {t : Target} (h : (readTarget i doc).outcome = .ok t) :
    t.WellFormed := by
  obtain ⟨-, -, hhost, -, -, -, items, -, hitems⟩ := readTarget_eq_ok_iff.1 h
  exact ⟨hhost, Noted.forall_of_eachFrom (fun _ _ _ => readAssertion_wellFormed) hitems⟩

/-- Every target of a file that is read is well formed. -/
theorem read_wellFormed {yaml : Yaml.Reader} {text : List Char} {f : AssertionFile}
    (h : (read yaml text).outcome = .ok f) : ∀ t ∈ f.targets, t.WellFormed := by
  obtain ⟨doc, -, hdoc⟩ := read_eq_ok_iff.1 h
  by_cases hset : doc.isTruthy = true
  · obtain ⟨-, items, -, hitems⟩ := (ofDocument_eq_ok_iff hset).1 hdoc
    exact Noted.forall_of_eachFrom (fun _ _ _ => readTarget_wellFormed) hitems
  · have hempty : ofDocument doc = pure ⟨[]⟩ := by simp [ofDocument, hset]
    rw [hempty] at hdoc
    cases hdoc
    simp

end AssertionFile

end StateCheck
