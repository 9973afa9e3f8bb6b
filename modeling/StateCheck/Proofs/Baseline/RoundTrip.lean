import StateCheck.Proofs.Assertion.RoundTrip
import StateCheck.Proofs.Baseline.Origin

/-!
Baselines that are written and read again.
-/

namespace StateCheck

open Yaml.Value

/-! ### Documents that are read -/

namespace AssertionFile

variable {doc : Yaml.Value} {i j : Nat} {host path username password : String} {a : Assertion}
  {e : Path.Error} {items : List Yaml.Value}

theorem readAssertion_of_malformed (hdoc : ∃ ms, doc = .mapping ms)
    (hpath : labelText (doc.get? "path") = .ok path) (hne : path ≠ "")
    (he : Path.read (Path.expand path) = .error e) :
    (readAssertion i host j doc).outcome = .error (.failure e.failure none) := by
  obtain ⟨ms, rfl⟩ := hdoc
  unfold readAssertion
  dsimp only
  rw [Noted.outcome_bind, Noted.outcome_orBreakOff, hpath, mapError_ok]
  dsimp only [Except.bind]
  rw [if_neg hne, he]
  rfl

theorem readTarget_outcome (hdoc : ∃ ms, doc = .mapping ms) (hhost : hostOf doc = .ok host)
    (hne : host ≠ "") (hu : labelText (doc.get? "username") = .ok username)
    (hp : labelText (doc.get? "password") = .ok password)
    (hitems : doc.items? "assertions" = some items) : (readTarget i doc).outcome =
      (Noted.each (readAssertion i host) items).outcome.map fun assertions =>
        ⟨host, ⟨username, password, (doc.truthy? "insecure").isSome⟩, assertions⟩ := by
  obtain ⟨ms, rfl⟩ := hdoc
  unfold readTarget
  dsimp only
  rw [Noted.outcome_bind, Noted.outcome_orBreakOff, hhost, mapError_ok]
  dsimp only [Except.bind]
  rw [if_neg hne, hitems]
  simp only [Noted.outcome_bind, Noted.outcome_orBreakOff, hu, hp, mapError_ok, Except.bind]
  cases (Noted.each (readAssertion i host) items).outcome <;> rfl

/-! ### Files of a single target -/

/-- The assertion with the path that is read for it. -/
def asRead (a : Assertion) : Assertion := { a with path := Path.expand a.path }

theorem readAssertion_cases (hc : Path.compact a.path = a.path) (hne : a.path ≠ "")
    (hp : ∀ p, a.predicate = some p → p.WellFormed) (i : Nat) (host : String) (j : Nat) :
    (readAssertion i host j (assertionDocument true a)).outcome = .ok (asRead a) ∨
      ∃ e, (readAssertion i host j (assertionDocument true a)).outcome = .error e ∧
        ∃ e' : Path.Error, Path.read (Path.expand a.path) = .error e' ∧
          e = .failure e'.failure none := by
  have hpath : labelText ((assertionDocument true a).get? "path") = .ok a.path := by
    rw [labelText_path, writtenPath, if_pos rfl, hc]
  cases hr : Path.read (Path.expand a.path) with
  | error e => exact .inr ⟨_, readAssertion_of_malformed ⟨_, rfl⟩ hpath hne hr, e, rfl, rfl⟩
  | ok elements =>
    refine .inl (readAssertion_eq_ok_iff.2 ⟨⟨_, rfl⟩, a.path, hpath, hne, rfl, ⟨elements, hr⟩, ?_,
      badThreshold?_of_wellFormed hp, labelText_name true a, labelText_description true a⟩)
    exact select_assertionDocument true hp

/-- A file about one host is read as it was written, with canonical paths, unless one of these
cannot be read. -/
theorem ofDocument_cases {as : List Assertion} (hhost : host ≠ "")
    (hc : ∀ a ∈ as, Path.compact a.path = a.path ∧ a.path ≠ "")
    (hp : ∀ a ∈ as, ∀ p, a.predicate = some p → p.WellFormed) :
    let file : AssertionFile := ⟨[⟨host, .none, as⟩]⟩
    (ofDocument (.mapping (file.toMembers true))).outcome =
        .ok ⟨[⟨host, .none, as.map asRead⟩]⟩ ∨
      ∃ a ∈ as, ∃ e : Path.Error, Path.read (Path.expand a.path) = .error e ∧
        (ofDocument (.mapping (file.toMembers true))).outcome =
          .error (.failure e.failure none) := by
  intro file
  have htarget : (readTarget 0 (targetDocument true ⟨host, .none, as⟩)).outcome = _ :=
    readTarget_outcome ⟨_, rfl⟩ (hostOf_targetDocument true hhost) hhost
      (labelText_username true _) (labelText_password true _) (items?_assertions true _)
  rw [← insecure_targetDocument] at htarget
  have hitems : (Yaml.Value.mapping (file.toMembers true)).items? "targets" =
      some [targetDocument true ⟨host, .none, as⟩] := items?_of_get? rfl
  have hfile : (ofDocument (.mapping (file.toMembers true))).outcome =
      (readTarget 0 (targetDocument true ⟨host, .none, as⟩)).outcome.map fun t => ⟨[t]⟩ := by
    unfold ofDocument
    rw [if_neg (by simp [toMembers, isTruthy])]
    dsimp only
    rw [hitems]
    dsimp only
    rw [Noted.outcome_map, Noted.each, Noted.eachFrom, Noted.outcome_bind]
    cases (readTarget 0 (targetDocument true ⟨host, .none, as⟩)).outcome <;> rfl
  rw [hfile, htarget]
  rcases Noted.eachFrom_map_cases (fun a ha j => readAssertion_cases (hc a ha).1 (hc a ha).2
    (hp a ha) 0 host j) 0 with hok | ⟨a, ha, e, herror, e', hread, rfl⟩
  · left
    rw [Noted.each, hok]
    rfl
  · right
    refine ⟨a, ha, e', hread, ?_⟩
    rw [Noted.each, herror]
    rfl

end AssertionFile

/-! ### Baselines -/

namespace Baseline

variable {names : List String} {host : String} {s : Source} {f : AssertionFile}

theorem file_eq_ok (h : (file .standard names host s).outcome = .ok f) :
    ∃ as, (survey .standard names s).outcome = .ok as ∧ f = ⟨[⟨host, .none, as⟩]⟩ := by
  unfold file at h
  rw [Survey.outcome_bind] at h
  obtain ⟨as, has, h⟩ := bind_eq_ok h
  exact ⟨as, has, (Except.ok.inj h).symm⟩

/-- A baseline is read again as it was written, with canonical paths, unless one of these cannot
be read. Then a text in it that a device gave has a bracket or a line break in it. The text of the
written members is assumed to be read as these members. -/
theorem read_file {yaml : Yaml.Reader} (hhost : host ≠ "")
    (h : (file .standard names host s).outcome = .ok f)
    (hyaml : yaml (f.write true).toList = .ok (.mapping (f.toMembers true))) :
    ∃ as, f.targets = [⟨host, .none, as⟩] ∧
      ((AssertionFile.read yaml (f.write true).toList).outcome =
          .ok ⟨[⟨host, .none, as.map fun a => { a with path := Path.expand a.path }⟩]⟩ ∨
        ∃ e : Failure, (AssertionFile.read yaml (f.write true).toList).outcome =
            .error (.failure e none) ∧ e.kind = .malformedPath ∧
          ∃ a ∈ as, ∃ leaf : Leaf, a.path = leaf.path ∧ ∃ kv ∈ leaf.keys, s.Gave kv.1 kv.2 ∧
            ∃ c ∈ kv.2.toList, c = '[' ∨ c = ']' ∨ c = '\n') := by
  obtain ⟨as, has, rfl⟩ := file_eq_ok h
  have hleaf := describes_of_survey has
  have hread : AssertionFile.read yaml
      (AssertionFile.write true ⟨[⟨host, .none, as⟩]⟩).toList =
      AssertionFile.ofDocument (.mapping (AssertionFile.toMembers true ⟨[⟨host, .none, as⟩]⟩)) := by
    rw [AssertionFile.read, hyaml]
  refine ⟨as, rfl, ?_⟩
  rw [hread]
  have hpaths : ∀ a ∈ as, Path.compact a.path = a.path ∧ a.path ≠ "" := by
    intro a ha
    obtain ⟨leaf, hd⟩ := hleaf a ha
    rw [hd.path]
    exact ⟨leaf.compact_path, leaf.path_ne_empty⟩
  have hpredicates : ∀ a ∈ as, ∀ p, a.predicate = some p → p.WellFormed := by
    intro a ha
    obtain ⟨leaf, hd⟩ := hleaf a ha
    exact hd.predicate
  rcases AssertionFile.ofDocument_cases hhost hpaths hpredicates with hok | ⟨a, ha, e, he, herror⟩
  · exact .inl hok
  · refine .inr ⟨e.failure, herror, rfl, a, ha, ?_⟩
    obtain ⟨leaf, hd⟩ := hleaf a ha
    refine ⟨leaf, hd.path, ?_⟩
    -- Without such a character in a text of the device, the path could be read.
    by_contra hnone
    have hsmooth : ∀ kv ∈ leaf.keys, Leaf.Smooth kv.2 := by
      intro kv hkv c hc
      have hset : kv.2 ≠ "" := fun hempty => by simp [hempty] at hc
      have hodd : ¬(c = '[' ∨ c = ']' ∨ c = '\n') := fun hodd =>
        hnone ⟨kv, hkv, hd.keys kv hkv hset, c, hc, hodd⟩
      simpa only [not_or] using hodd
    obtain ⟨p, hp⟩ := leaf.exists_read hsmooth
    rw [hd.path, hp] at he
    cases he

/-- A device with one interface. -/
def uplink : Source where
  address := "r"
  answer path := .ok ⟨Device.Value.ofJson? (.object [("interface", .array [.object
    [("name", .string "Et1"), ("state", .object [("oper-status", .string "UP")])]])]),
    path == "/interfaces"⟩

def uplinkFile : AssertionFile :=
  ⟨[⟨"r", .none, [equality "Et1 is UP" "interface[Et1]/state/oper-status" "UP"]⟩]⟩

/-- The texts of the document of a file with one host and one expected value. -/
def texts? : Yaml.Value → Option (List String)
  | .mapping [(.string a, .list [.mapping [(.string b, .string host), (.string c, .list
      [.mapping [(.string d, .string name), (.string e, .string path),
        (.string f, .string value)]])]])] =>
    some [a, b, host, c, d, name, e, path, f, value]
  | _ => none

theorem eq_of_texts? {doc : Yaml.Value} {a b host c d name e path f value : String}
    (h : texts? doc = some [a, b, host, c, d, name, e, path, f, value]) :
    doc = .mapping [(.string a, .list [.mapping [(.string b, .string host), (.string c, .list
      [.mapping [(.string d, .string name), (.string e, .string path),
        (.string f, .string value)]])]])] := by
  unfold texts? at h
  split at h
  · simp only [Option.some.injEq, List.cons.injEq, and_true] at h
    obtain ⟨rfl, rfl, rfl, rfl, rfl, rfl, rfl, rfl, rfl, rfl⟩ := h
    rfl
  · cases h

theorem load_uplink :
    Yaml.load (uplinkFile.write true).toList = .ok (.mapping (uplinkFile.toMembers true)) := by
  have hread : (Yaml.load (uplinkFile.write true).toList).toOption.bind texts? =
      some ["targets", "host", "r", "assertions", "name", "Et1 is UP", "path",
        "interface[Et1]/state/oper-status", "equals", "UP"] := by decide +kernel
  have hmembers : uplinkFile.toMembers true = [(.string "targets", .list [.mapping
      [(.string "host", .string "r"), (.string "assertions", .list [.mapping
        [(.string "name", .string "Et1 is UP"),
          (.string "path", .string "interface[Et1]/state/oper-status"),
          (.string "equals", .string "UP")]])]])] := rfl
  obtain ⟨doc, hload, hdoc⟩ := Option.bind_eq_some_iff.1 hread
  rw [hmembers, ← eq_of_texts? hdoc, ← toOption_eq_some_iff]
  exact hload

theorem read_file_uplink : ∃ as, uplinkFile.targets = [⟨"r", .none, as⟩] ∧
    ((AssertionFile.read Yaml.load (uplinkFile.write true).toList).outcome =
        .ok ⟨[⟨"r", .none, as.map fun a => { a with path := Path.expand a.path }⟩]⟩ ∨
      ∃ e : Failure, (AssertionFile.read Yaml.load (uplinkFile.write true).toList).outcome =
          .error (.failure e none) ∧ e.kind = .malformedPath ∧
        ∃ a ∈ as, ∃ leaf : Leaf, a.path = leaf.path ∧ ∃ kv ∈ leaf.keys,
          uplink.Gave kv.1 kv.2 ∧ ∃ c ∈ kv.2.toList, c = '[' ∨ c = ']' ∨ c = '\n') := by
  have hfile : (file .standard ["interfaces"] "r" uplink).outcome = .ok uplinkFile :=
    toOption_eq_some_iff.1 (by decide +kernel)
  exact read_file (by decide) hfile load_uplink

end Baseline

end StateCheck
