import StateCheck.Proofs.Run.Answers
import StateCheck.Proofs.Run.Discipline

/-!
Sessions that are refused: which refusal a run reports, and what it has done by then.
-/

namespace StateCheck.Run

/-! ### Failures to connect -/

/-- The failure to connect that is reported if a host refuses its session: the refusal itself if
it is such a failure, else one that arose from it. -/
inductive Reports (host : String) : Fault → Fault → Prop
  | own {e : Fault} (h : e.asKind? .connect ≠ none) : Reports host e e
  | wrapped {e : Fault} (h : e.asKind? .connect = none) :
      Reports host e (.failure ⟨.connect, "connect: " ++ e.text, some host, []⟩ (some e))

theorem Reports.unique {host : String} {e f f' : Fault} (h : Reports host e f)
    (h' : Reports host e f') : f = f' := by
  cases h with
  | own he =>
    cases h' with
    | own => rfl
    | wrapped he' => exact absurd he' he
  | wrapped he =>
    cases h' with
    | own he' => exact absurd he he'
    | wrapped => rfl

theorem reports_refusal (c : Device.Connection) (e : Fault) :
    Reports c.address e (refusal c e) := by
  unfold refusal
  cases he : e.asKind? .connect with
  | some f => exact .own (by simp [he])
  | none => exact .wrapped he

theorem address_connection (settings : Option Settings) (timeout : Binary64) (t : Target) :
    (connection settings timeout t).address = t.host := by
  cases settings <;> rfl

/-! ### Runs with refusals -/

/-- What came of the attempts to open a session is as given for their targets. -/
def Attempts (n : Network) (s : State) (refuses : Nat → Option Fault) : Prop :=
  ∀ i c, (.opened i c ∈ s.events ∨ ∃ e, .refused i c e ∈ s.events) → n.connect i c = refuses i

/-- The values of all answers have a text. -/
def Readable (n : Network) (s : State) : Prop :=
  ∀ i j c path timeout answer, .asked i j c path timeout ∈ s.events →
    (n.fetch i j c path timeout).outcome = .ok answer →
    ∃ text, Device.Value.textOf answer.value = .ok text

variable {p : Plan} {n : Network} {listener : Listener} {s : State} {i : Nat} {x : Place}
  {t : Target} {c : Device.Connection} {e : Fault} {b : Breakdown} {refuses : Nat → Option Fault}

theorem Rejected.refuses_eq (h : Rejected p n s i c e) (ha : Attempts n s refuses) :
    refuses i = some e := by
  rw [← ha i c (.inr ⟨e, h.refused⟩), h.connect]

theorem Served.opened {tasks : List Task} {talk : List Event}
    (h : Served p n listener s i t c tasks talk) : .opened i c ∈ s.events := by
  have hm : .opened i c ∈ s.logged i := by
    rw [h.log.log]
    exact List.mem_cons_self ..
  exact (mem_logOf.1 hm).1

theorem Served.refuses_eq {tasks : List Task} {talk : List Event}
    (h : Served p n listener s i t c tasks talk) (ha : Attempts n s refuses) :
    refuses i = none := by
  rw [← ha i c (.inl h.opened), h.connect]

theorem Settled.exists_rejected (h : Settled p n listener s) (ha : Attempts n s refuses)
    (ht : p.targets[i]? = some t) (he : refuses i = some e) :
    ∃ c, Rejected p n s i c e ∧ c.address = t.host := by
  obtain ⟨c, e', hr⟩ | ⟨c, tasks, talk, hserved⟩ := h.target_cases ht
  · obtain rfl : e = e' := Option.some.inj (he.symm.trans (hr.refuses_eq ha))
    obtain ⟨t', limit, ht', rfl⟩ := hr.reaches
    obtain rfl := Option.some.inj (ht.symm.trans ht')
    exact ⟨_, hr, address_connection p.settings limit t⟩
  · rw [hserved.refuses_eq ha] at he
    cases he

theorem Attempts.not_rejected (ha : Attempts n s refuses) (hn : refuses i = none)
    (c : Device.Connection) (e : Fault) : ¬Rejected p n s i c e := by
  intro hr
  rw [hr.refuses_eq ha] at hn
  cases hn

/-- If all answers can be read, only a pattern makes an evaluation break off. -/
theorem Readable.jams (h : Readable n s) (hb : x.BreaksOff p n s b) : x.assertion.Jams b := by
  obtain ⟨c, limit, timeout, -, hh, hr⟩ := hb
  have hasked : .asked x.position.1 x.position.2 c x.assertion.path timeout ∈ s.events :=
    mem_events_of_history (by rw [hh]; simp [exchange])
  have hderails := Place.result_eq_error_iff.1 hr
  cases ho : (n.fetch x.position.1 x.position.2 c x.assertion.path timeout).outcome with
  | error e =>
    rw [ho] at hderails
    cases hderails
  | ok answer =>
    obtain ⟨text, ht⟩ := h _ _ _ _ _ answer hasked ho
    rw [ho] at hderails
    cases hderails with
    | unreadable hu =>
      rw [ht] at hu
      cases hu
    | jammed hu hf hj => exact hj

/-- Results are recorded for exactly the assertions of the targets that are reached. -/
theorem Settled.places_reached (h : Settled p n listener s) (ha : Attempts n s refuses)
    (hwhole : ∀ x ∈ p.places, ∀ b, ¬x.BreaksOff p n s b) :
    s.places p = p.places.filter fun x => (refuses x.position.1).isNone := by
  refine List.filter_congr fun x hx => ?_
  cases hn : refuses x.position.1 with
  | none =>
    obtain ⟨r, hr⟩ | ⟨b, hb⟩ := h.evaluated hx (ha.not_rejected hn)
    · exact decide_eq_true (mem_positions.2 ⟨r, hr.recorded⟩)
    · exact absurd hb (hwhole x hx b)
  | some e =>
    refine decide_eq_false fun hm => ?_
    obtain ⟨r, hr⟩ := mem_positions.1 hm
    obtain ⟨c, hrejected, -⟩ := h.exists_rejected ha (mem_places.1 hx).1 hn
    have hhistory : .recorded x.position.1 x.position.2 r ∈ s.history x.position.1 x.position.2 :=
      mem_history.2 ⟨hr, rfl⟩
    rw [hrejected.history] at hhistory
    cases hhistory

/-! ### Reports -/

/-- What a run does and reports if these are the targets that refuse their sessions. -/
structure RefusalsReported (p : Plan) (n : Network) (s : State) (refuses : Nat → Option Fault) :
    Prop where
  /-- All other targets are reached. -/
  sessions : ∀ i t, p.targets[i]? = some t → refuses i = none →
    ∃ c limit, c = connection p.settings limit t ∧ .opened i c ∈ s.events
  closed : ∀ i c, .opened i c ∈ s.events → [.opened i c, .closed i c].Sublist s.events
  /-- Every assertion of a target that is reached is asked about. -/
  evaluated : ∀ x ∈ p.places, refuses x.position.1 = none →
    (∃ r, x.Yields p n s r) ∨ ∃ b, x.BreaksOff p n s b
  /-- Only a pattern makes an evaluation break off. The run then has no other report. -/
  jams : ∀ x ∈ p.places, ∀ b, x.BreaksOff p n s b → x.assertion.Jams b
  brokenOff : (∃ x ∈ p.places, ∃ b, x.BreaksOff p n s b) →
    ∃ x ∈ p.places, ∃ b, x.BreaksOff p n s b ∧ conclude s = ⟨[], .error (.breakdown b)⟩
  /-- Else all assertions of the targets that are reached have results, which are told once. -/
  recorded : (∀ x ∈ p.places, ∀ b, ¬x.BreaksOff p n s b) →
    List.Forall₂ (Place.Yields p n s)
      (p.places.filter fun x => (refuses x.position.1).isNone) s.results ∧
    s.tellings.Perm s.results
  /-- The refusal of the lowest target is reported. -/
  refused : (∀ x ∈ p.places, ∀ b, ¬x.BreaksOff p n s b) →
    ∀ i t e, p.targets[i]? = some t → refuses i = some e → (∀ k < i, refuses k = none) →
      ∃ f, Reports t.host e f ∧ conclude s = ⟨["Run aborted: " ++ f.text], .error f⟩
  complete : (∀ x ∈ p.places, ∀ b, ¬x.BreaksOff p n s b) →
    (∀ i t, p.targets[i]? = some t → refuses i = none) → conclude s = ⟨[], .ok s.outcome⟩

theorem Settled.conclude_refused (h : Settled p n listener s) (ha : Attempts n s refuses)
    (hwhole : ∀ x ∈ p.places, ∀ b, ¬x.BreaksOff p n s b) (ht : p.targets[i]? = some t)
    (he : refuses i = some e) (hlow : ∀ k < i, refuses k = none) :
    ∃ f, Reports t.host e f ∧ conclude s = ⟨["Run aborted: " ++ f.text], .error f⟩ := by
  obtain ⟨c, hr, hhost⟩ := h.exists_rejected ha ht he
  obtain ⟨x, b, hx, hb, -⟩ | ⟨-, ⟨k, c', e', hk, hle, hconclude⟩ | ⟨hnone, -⟩⟩ := h.conclude_cases
  · exact absurd hb (hwhole x hx b)
  · -- The run reports the lowest target that was refused, and that is the given one.
    have hki : k = i := by
      have hle' := hle i c e hr
      have hge : ¬k < i := fun hlt => ha.not_rejected (hlow k hlt) c' e' hk
      omega
    subst hki
    obtain rfl : e = e' := Option.some.inj (he.symm.trans (hk.refuses_eq ha))
    obtain ⟨rfl, -⟩ : c' = c ∧ _ := by simpa using hk.log.symm.trans hr.log
    exact ⟨refusal c' e, hhost ▸ reports_refusal c' e, hconclude⟩
  · exact absurd hr (hnone i c e)

theorem Settled.refusalsReported (h : Settled p n listener s) (hread : Readable n s)
    (ha : Attempts n s refuses) : RefusalsReported p n s refuses where
  sessions i t ht hn := by
    obtain ⟨c, e, hr⟩ | ⟨c, tasks, talk, hserved⟩ := h.target_cases ht
    · exact absurd hr (ha.not_rejected hn c e)
    · obtain ⟨limit, hc⟩ := hserved.session.limit
      exact ⟨c, limit, hc, hserved.opened⟩
  closed _ _ hm := closed_of_opened h.logbook h.isOver hm
  evaluated _ hx hn := h.evaluated hx (ha.not_rejected hn)
  jams _ _ _ hb := hread.jams hb
  brokenOff := by
    rintro ⟨x, hx, b, hb⟩
    obtain ⟨y, b', hy, hb', hconclude⟩ | ⟨hwhole, -⟩ := h.conclude_cases
    · exact ⟨y, hy, b', hb', hconclude⟩
    · exact absurd hb (hwhole x hx b)
  recorded hwhole := by
    have hresults := h.sound.results
    rw [h.places_reached ha hwhole] at hresults
    refine ⟨hresults, ?_⟩
    rw [h.tellings]
    exact (perm_results s).symm
  refused hwhole _ _ _ ht he hlow := h.conclude_refused ha hwhole ht he hlow
  complete hwhole hreached := by
    refine h.conclude_ok hwhole fun i c e hr => ?_
    obtain ⟨t, limit, ht, -⟩ := hr.reaches
    exact ha.not_rejected (hreached i t ht) c e hr

/-- Every run can be worked to its end. If it is over, nothing stopped or disturbed it and all
answers can be read, then by then it has evaluated all assertions of the targets that it reached
and closed their sessions. Whatever its schedule was, it reports the refusal of the lowest target
that was refused, unless a pattern made an evaluation break off. -/
theorem lowest_refusal_reported (p : Plan) (workers parallel : Int) (n : Network)
    (listener : Listener) (schedule : List Move) :
    let q := p.limited workers parallel
    (∃ rest, rest.all Move.isWork = true ∧ rest.length ≤ q.moves ∧
      (follow q n listener (schedule ++ rest) (.start q)).isOver = true) ∧
    ∀ s, s = follow q n listener schedule (.start q) → s.isOver = true →
      unstopped q n listener schedule (.start q) = true → Undisturbed n listener s →
      Readable n s → ∀ refuses, Attempts n s refuses → RefusalsReported q n s refuses := by
  intro q
  refine ⟨exists_end p workers parallel n listener schedule, ?_⟩
  rintro s rfl hover hstop hu hread refuses ha
  exact (settled_follow hover hstop hu).refusalsReported hread ha

/-! ### A run with one refusal -/

/-- A target that is down, and one with the given assertion. -/
def pairPlan (a : Assertion) : Plan :=
  { smallPlan with targets := [⟨"down", .none, []⟩, ⟨"router", .none, [a]⟩] }

def refusesFirst (i : Nat) : Option Fault := if i = 0 then some (.plain "no route") else none

/-- The calm network without its first target. -/
def brokenNetwork : Network := { calmNetwork with connect := fun i _ => refusesFirst i }

/-- The first session is refused while the second one is open. -/
def tangledSchedule : List Move :=
  [.target 1, .target 0, .target 1, .target 0] ++ List.replicate 5 (.assertion 1 0) ++ [.target 1]

theorem readable_broken (s : State) : Readable brokenNetwork s := by
  intro i j c path timeout answer h ha
  cases ha
  exact ⟨"", rfl⟩

theorem lowest_refusal_of_pair :
    let q := (pairPlan (askPresence "/interfaces")).limited 2 1
    let s := follow q brokenNetwork .silent tangledSchedule (.start q)
    s.isOver = true ∧ unstopped q brokenNetwork .silent tangledSchedule (.start q) = true ∧
      Undisturbed brokenNetwork .silent s ∧ Readable brokenNetwork s ∧
      Attempts brokenNetwork s refusesFirst ∧ s.recordedCount = 1 ∧
      conclude s = ⟨["Run aborted: [down] connect: no route"],
        .error (.failure ⟨.connect, "connect: no route", some "down", []⟩
          (some (.plain "no route")))⟩ := by
  intro q s
  have hover : s.isOver = true := by decide +kernel
  have hstop : unstopped q brokenNetwork .silent tangledSchedule (.start q) = true := by
    decide +kernel
  have hu : Undisturbed brokenNetwork .silent s := ⟨fun _ _ _ => rfl, fun _ _ _ => rfl⟩
  have ha : Attempts brokenNetwork s refusesFirst := fun _ _ _ => rfl
  have hcount : s.recordedCount = 1 := by decide +kernel
  have h := (lowest_refusal_reported (pairPlan (askPresence "/interfaces")) 2 1 brokenNetwork
    .silent tangledSchedule).2 s rfl hover hstop hu (readable_broken s) refusesFirst ha
  have hwhole : ∀ x ∈ q.places, ∀ b, ¬x.BreaksOff q brokenNetwork s b := by
    intro x hx b hb
    have hjams := h.jams x hx b hb
    obtain rfl := List.mem_singleton.1 hx
    cases hjams with
    | conflict hp | large hp => cases hp
  obtain ⟨f, hf, hconclude⟩ := h.refused hwhole 0 _ (.plain "no route") rfl rfl nofun
  obtain rfl := hf.unique (.wrapped rfl)
  exact ⟨hover, hstop, hu, readable_broken s, ha, hcount, hconclude⟩

/-- A pattern that is too large hides the refusal. -/
theorem refusal_hidden_by_large_pattern :
    let q := (pairPlan askLarge).limited 2 1
    let s := follow q brokenNetwork .silent tangledSchedule (.start q)
    s.isOver = true ∧ unstopped q brokenNetwork .silent tangledSchedule (.start q) = true ∧
      Undisturbed brokenNetwork .silent s ∧ Readable brokenNetwork s ∧
      Attempts brokenNetwork s refusesFirst ∧ refusesFirst 0 = some (.plain "no route") ∧
      ∃ f, (conclude s).outcome = .error f ∧ f.asKind? .connect = none := by
  intro q s
  have hover : s.isOver = true := by decide +kernel
  have hstop : unstopped q brokenNetwork .silent tangledSchedule (.start q) = true := by
    decide +kernel
  have hu : Undisturbed brokenNetwork .silent s := ⟨fun _ _ _ => rfl, fun _ _ _ => rfl⟩
  have hescapes : (s.failures.any fun k => (k.2.asKind? .connect).isNone) = true := by
    decide +kernel
  obtain ⟨k, hk, hn⟩ := List.any_eq_true.1 hescapes
  exact ⟨hover, hstop, hu, readable_broken s, fun _ _ _ => rfl, rfl,
    conclude_of_escape hk (Option.isNone_iff_eq_none.1 hn)⟩

end StateCheck.Run
