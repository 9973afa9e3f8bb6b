import Mathlib.Data.List.Forall2
import StateCheck.Proofs.Baseline.Confirmation

/-!
What a device is asked for while a baseline is made of it. The generators ask one after the other,
in the order of their names, until one of them fails or a name is unknown. The names are not looked
at beforehand, so an unknown name is noticed when the generators in front of it have asked.
-/

namespace StateCheck.Baseline

variable {c : Catalogue} {s : Source} {g : Generator} {name host : String}
  {front names : List String} {e : Fault} {as : List Assertion}

/-! ### Surveys in a row -/

namespace Survey

variable {α β : Type} {x : Survey α} {a : α}

theorem bind_of_ok (h : (x s).outcome = .ok a) (f : α → Survey β) :
    (x >>= f) s = ⟨(x s).asked ++ (f a s).asked, (f a s).outcome⟩ := by
  change Survey.bind x f s = _
  unfold Survey.bind
  rw [h]

theorem bind_of_error (h : (x s).outcome = .error e) (f : α → Survey β) :
    (x >>= f) s = ⟨(x s).asked, .error e⟩ := by
  change Survey.bind x f s = _
  unfold Survey.bind
  rw [h]

theorem asked_bind_ne_nil (h : (x s).asked ≠ []) (f : α → Survey β) : ((x >>= f) s).asked ≠ [] := by
  cases hx : (x s).outcome with
  | error e =>
    rw [bind_of_error hx]
    exact h
  | ok a =>
    rw [bind_of_ok hx]
    exact List.append_ne_nil_of_left_ne_nil h _

theorem bind_pure_eq (f : α → β) :
    (x >>= fun a => pure (f a)) s = ⟨(x s).asked, (x s).outcome.map f⟩ := by
  cases hx : (x s).outcome with
  | error e => exact bind_of_error hx _
  | ok a =>
    rw [bind_of_ok hx]
    exact congrArg (Findings.mk · (.ok (f a))) (List.append_nil _)

end Survey

/-! ### One name after the other -/

/-- What a generator asked, and the assertions that it made. -/
structure Yield where
  asked : List String
  found : List Assertion

/-- There is a generator of that name, and this is what comes of it on the device. -/
def Yields (c : Catalogue) (s : Source) (name : String) (y : Yield) : Prop :=
  ∃ g, Table.get? c name = some g ∧ g.survey s = ⟨y.asked, .ok y.found⟩

/-- The failure that tells of a name without a generator. -/
def unknownName (c : Catalogue) (name : String) : Fault :=
  .ofFailure (.of .generator ("Unknown generator '" ++ name ++ "'") [("available", c.listing)])

theorem survey_of_unknown (h : Table.get? c name = none) (names : List String) :
    survey c (name :: names) s = ⟨[], .error (unknownName c name)⟩ := by
  rw [survey, h]
  rfl

theorem survey_of_failed (hg : Table.get? c name = some g) (h : (g.survey s).outcome = .error e)
    (names : List String) : survey c (name :: names) s = ⟨(g.survey s).asked, .error e⟩ := by
  rw [survey, hg]
  exact Survey.bind_of_error h _

theorem survey_of_yields {y : Yield} (h : Yields c s name y) (names : List String) :
    survey c (name :: names) s =
      ⟨y.asked ++ (survey c names s).asked, (survey c names s).outcome.map (y.found ++ ·)⟩ := by
  obtain ⟨g, hg, hy⟩ := h
  have hfound : (g.survey s).outcome = .ok y.found := by rw [hy]
  rw [survey, hg]
  dsimp only
  rw [Survey.bind_of_ok hfound, Survey.bind_pure_eq, hy]

/-- Behind names whose generators find something, a survey goes on as it would alone. -/
theorem survey_append {ys : List Yield} (h : List.Forall₂ (Yields c s) front ys)
    (names : List String) : survey c (front ++ names) s =
      ⟨ys.flatMap Yield.asked ++ (survey c names s).asked,
        (survey c names s).outcome.map (ys.flatMap Yield.found ++ ·)⟩ := by
  induction h with
  | nil =>
    cases hs : survey c names s with
    | mk asked outcome => cases outcome <;> simp [hs, Except.map]
  | cons hy _ ih =>
    rw [List.cons_append, survey_of_yields hy, ih, map_map]
    simp [Function.comp_def]

/-- What stops a survey at a name, after these requests and with this fault. -/
inductive Stops (c : Catalogue) (s : Source) (name : String) : List String → Fault → Prop
  | unknown (h : Table.get? c name = none) : Stops c s name [] (unknownName c name)
  | failed {g : Generator} {e : Fault} (hg : Table.get? c name = some g)
      (h : (g.survey s).outcome = .error e) : Stops c s name (g.survey s).asked e

theorem Stops.survey_eq {asked : List String} (h : Stops c s name asked e)
    (names : List String) : survey c (name :: names) s = ⟨asked, .error e⟩ := by
  cases h with
  | unknown h => exact survey_of_unknown h names
  | failed hg h => exact survey_of_failed hg h names

theorem yields_or_stops (c : Catalogue) (s : Source) (name : String) :
    (∃ y, Yields c s name y) ∨ ∃ asked e, Stops c s name asked e := by
  cases hg : Table.get? c name with
  | none => exact .inr ⟨_, _, .unknown hg⟩
  | some g =>
    cases h : (g.survey s).outcome with
    | error e => exact .inr ⟨_, _, .failed hg h⟩
    | ok as =>
      refine .inl ⟨⟨(g.survey s).asked, as⟩, g, hg, ?_⟩
      rw [← h]

/-- Names fall into those whose generators find something and what a survey stops at. -/
theorem exists_front (c : Catalogue) (s : Source) (names : List String) :
    ∃ front ys, List.Forall₂ (Yields c s) front ys ∧ (names = front ∨
      ∃ name rest asked e, names = front ++ name :: rest ∧ Stops c s name asked e) := by
  induction names with
  | nil => exact ⟨[], [], .nil, .inl rfl⟩
  | cons name names ih =>
    obtain ⟨y, hy⟩ | ⟨asked, e, hstop⟩ := yields_or_stops c s name
    · obtain ⟨front, ys, hys, rfl | ⟨name', rest, asked, e, rfl, hstop⟩⟩ := ih
      · exact ⟨name :: names, y :: ys, .cons hy hys, .inl rfl⟩
      · exact ⟨name :: front, y :: ys, .cons hy hys, .inr ⟨name', rest, asked, e, rfl, hstop⟩⟩
    · exact ⟨[], [], .nil, .inr ⟨name, names, asked, e, rfl, hstop⟩⟩

/-! ### Files -/

theorem file_eq (c : Catalogue) (names : List String) (host : String) (s : Source) :
    file c names host s = ⟨(survey c names s).asked,
      (survey c names s).outcome.map fun as => ⟨[⟨host, .none, as⟩]⟩⟩ := Survey.bind_pure_eq _

theorem file_of_yields {ys : List Yield} (h : List.Forall₂ (Yields c s) names ys) (host : String) :
    file c names host s =
      ⟨ys.flatMap Yield.asked, .ok ⟨[⟨host, .none, ys.flatMap Yield.found⟩]⟩⟩ := by
  have hsurvey := survey_append h []
  rw [List.append_nil] at hsurvey
  rw [file_eq, hsurvey]
  simp [survey, pure, Survey.ofExcept, Except.map]

theorem file_of_stops {ys : List Yield} (h : List.Forall₂ (Yields c s) front ys)
    {asked : List String} (hstop : Stops c s name asked e) (rest : List String) (host : String) :
    file c (front ++ name :: rest) host s = ⟨ys.flatMap Yield.asked ++ asked, .error e⟩ := by
  rw [file_eq, survey_append h, hstop.survey_eq]
  rfl

/-! ### Generators that ask -/

theorem asked_query_ne_nil (area : Area) (path : String) (s : Source) :
    (area.query path s).asked ≠ [] :=
  Survey.asked_bind_ne_nil (List.cons_ne_nil path []) _

theorem asked_queryText_ne_nil (path : String) (s : Source) : (queryText path s).asked ≠ [] :=
  Survey.asked_bind_ne_nil (List.cons_ne_nil path []) _

/-- Every generator of the program asks the device for something, whatever it answers. -/
theorem asked_ne_nil_of_builtIn (hg : g ∈ builtIn) (s : Source) : (g.survey s).asked ≠ [] := by
  simp only [builtIn, List.mem_cons, List.not_mem_nil, or_false] at hg
  obtain rfl | rfl | rfl | rfl | rfl | rfl := hg
  · exact Survey.asked_bind_ne_nil (asked_query_ne_nil Bgp.area _ s) _
  · exact Survey.asked_bind_ne_nil (asked_query_ne_nil Interfaces.area _ s) _
  · exact Survey.asked_bind_ne_nil (asked_query_ne_nil Lldp.area _ s) _
  · exact Survey.asked_bind_ne_nil (asked_query_ne_nil Ospf.area _ s) _
  · have hfirst : (Host.firstText Host.namePaths s).asked ≠ [] :=
      Survey.asked_bind_ne_nil (asked_queryText_ne_nil _ s) _
    exact Survey.asked_bind_ne_nil hfirst _
  · exact Survey.asked_bind_ne_nil (asked_query_ne_nil Vxlan.area _ s) _

/-! ### Unknown names -/

theorem known_of_yields {ys : List Yield} (h : List.Forall₂ (Yields c s) names ys)
    (hm : name ∈ names) : Table.get? c name ≠ none := by
  induction h with
  | nil => cases hm
  | cons hy _ ih =>
    obtain rfl | hm := List.mem_cons.1 hm
    · obtain ⟨g, hg, -⟩ := hy
      rw [hg]
      exact nofun
    · exact ih hm

theorem asked_ne_nil_of_yields {y : Yield} (h : Yields .standard s name y) : y.asked ≠ [] := by
  obtain ⟨g, hg, hy⟩ := h
  have hasked := asked_ne_nil_of_builtIn (mem_builtIn hg) s
  rwa [hy] at hasked

/-- The generators of the program let an unknown name touch the device unless it comes first. -/
theorem asked_eq_nil_iff (hm : name ∈ names) (h : Table.get? Catalogue.standard name = none) :
    (file .standard names host s).asked = [] ↔
      ∃ first rest, names = first :: rest ∧ Table.get? Catalogue.standard first = none := by
  constructor
  · intro hasked
    obtain ⟨front, ys, hys, rfl | ⟨first, rest, asked, e, rfl, hstop⟩⟩ :=
      exists_front .standard s names
    · exact absurd h (known_of_yields hys hm)
    · rw [file_of_stops hys hstop] at hasked
      obtain ⟨hfront, hlast⟩ := List.append_eq_nil_iff.1 hasked
      cases hys with
      | nil =>
        cases hstop with
        | unknown hfirst => exact ⟨first, rest, rfl, hfirst⟩
        | failed hg => exact absurd hlast (asked_ne_nil_of_builtIn (mem_builtIn hg) s)
      | cons hy _ =>
        obtain ⟨hy', -⟩ := List.append_eq_nil_iff.1 hfront
        exact absurd hy' (asked_ne_nil_of_yields hy)
  · rintro ⟨first, rest, rfl, hfirst⟩
    have hfile := file_of_stops (s := s) .nil (.unknown hfirst) rest host
    rw [List.nil_append] at hfile
    rw [hfile]
    rfl

/-- The generators ask in the order of their names, each as often as it is named, and their
assertions come in that order, until a generator fails or a name is unknown: then there is no file,
and nothing more is asked. So an unknown name never leads to a file, but of the generators of the
program all that are named in front of it have asked the device. -/
theorem file_outcome (c : Catalogue) (names : List String) (host : String) (s : Source) :
    (∃ front ys, List.Forall₂ (Yields c s) front ys ∧
      (names = front ∧ file c names host s =
          ⟨ys.flatMap Yield.asked, .ok ⟨[⟨host, .none, ys.flatMap Yield.found⟩]⟩⟩ ∨
        ∃ name rest asked e, names = front ++ name :: rest ∧ Stops c s name asked e ∧
          file c names host s = ⟨ys.flatMap Yield.asked ++ asked, .error e⟩)) ∧
    (∀ ys, List.Forall₂ (Yields c s) names ys → file c names host s =
      ⟨ys.flatMap Yield.asked, .ok ⟨[⟨host, .none, ys.flatMap Yield.found⟩]⟩⟩) ∧
    (∀ name ∈ names, Table.get? c name = none → ∃ e, (file c names host s).outcome = .error e) ∧
    ∀ name ∈ names, Table.get? Catalogue.standard name = none →
      ((file .standard names host s).asked = [] ↔
        ∃ first rest, names = first :: rest ∧ Table.get? Catalogue.standard first = none) := by
  refine ⟨?_, fun ys hys => file_of_yields hys host, fun name hm h => ?_,
    fun name hm h => asked_eq_nil_iff hm h⟩
  · obtain ⟨front, ys, hys, rfl | ⟨name, rest, asked, e, rfl, hstop⟩⟩ := exists_front c s names
    · exact ⟨names, ys, hys, .inl ⟨rfl, file_of_yields hys host⟩⟩
    · refine ⟨front, ys, hys, .inr ⟨name, rest, asked, e, rfl, hstop, ?_⟩⟩
      exact file_of_stops hys hstop rest host
  · obtain ⟨front, ys, hys, rfl | ⟨name', rest, asked, e, rfl, hstop⟩⟩ := exists_front c s names
    · exact absurd h (known_of_yields hys hm)
    · exact ⟨e, by rw [file_of_stops hys hstop]⟩

/-- A device that tells its software version and nothing else. -/
def versioned : Source := .ofTexts [(Host.versionPath, "4.30")]

def versionYield : Yield :=
  ⟨Host.namePaths ++ [Host.versionPath],
    Host.statement "Software version" "system/state/software-version" "4.30"⟩

theorem yields_version : Yields .standard versioned "system" versionYield :=
  ⟨Host.generator, rfl, rfl⟩

theorem yields_lldp : Yields .standard versioned "lldp" ⟨[Lldp.path], []⟩ :=
  ⟨Lldp.generator, rfl, rfl⟩

/-- An area that is named twice is asked for twice; and an unknown name between the two is noticed
when the first has asked. -/
theorem file_outcome_twice :
    (file .standard ["system", "lldp", "system"] "r" versioned =
      ⟨versionYield.asked ++ [Lldp.path] ++ versionYield.asked,
        .ok ⟨[⟨"r", .none, versionYield.found ++ versionYield.found⟩]⟩⟩) ∧
    Table.get? Catalogue.standard "bogus" = none ∧
    (∃ e, (file .standard ["system", "bogus", "system"] "r" versioned).outcome = .error e) ∧
    (file .standard ["system", "bogus", "system"] "r" versioned).asked ≠ [] ∧
    (file .standard ["bogus", "system"] "r" versioned).asked = [] := by
  have hnone : Table.get? Catalogue.standard "bogus" = none := by decide
  obtain ⟨-, hfile, -⟩ := file_outcome .standard ["system", "lldp", "system"] "r" versioned
  obtain ⟨-, -, hfails, hasked⟩ := file_outcome .standard ["system", "bogus", "system"] "r" versioned
  obtain ⟨-, -, -, hfirst⟩ := file_outcome .standard ["bogus", "system"] "r" versioned
  refine ⟨?_, hnone, hfails "bogus" (by decide) hnone, ?_, ?_⟩
  · exact hfile [versionYield, ⟨[Lldp.path], []⟩, versionYield]
      (.cons yields_version (.cons yields_lldp (.cons yields_version .nil)))
  · rw [Ne, hasked "bogus" (by decide) hnone]
    rintro ⟨first, rest, heq, hunknown⟩
    cases heq
    exact absurd hunknown (by decide)
  · exact (hfirst "bogus" (by decide) hnone).2 ⟨_, _, rfl, hnone⟩

/-- A device with which every request fails. -/
def severed : Source := ⟨"r", fun _ => .error (.plain "connection reset")⟩

/-- The device is asked before the unknown name is noticed, and its fault is what is told. -/
theorem unknown_name_after_request : Table.get? Catalogue.standard "bogus" = none ∧
    (file .standard ["interfaces", "bogus"] "r" severed).asked = [Interfaces.path] ∧
    (file .standard ["interfaces", "bogus"] "r" severed).outcome =
      .error (.plain "connection reset") := by
  have hstop : Stops .standard severed "interfaces" [Interfaces.path] (.plain "connection reset") :=
    .failed (g := Interfaces.generator) rfl rfl
  have hfile := file_of_stops .nil hstop ["bogus"] "r"
  rw [List.nil_append] at hfile
  rw [hfile]
  exact ⟨by decide, rfl, rfl⟩

end StateCheck.Baseline
