import StateCheck.Proofs.Assertion.Verdicts
import StateCheck.Proofs.Run.Faults

/-!
Bad answers and bad operands: what they do to the results of a run, and which of them leave it
without an outcome.
-/

namespace StateCheck.Run

/-! ### Answers -/

/-- The evaluation of what came of a request breaks off: the value has no text, or the pattern
that it is to be searched for cannot be read. -/
inductive Derails (a : Assertion) : Except Fault Device.Answer → Breakdown → Prop
  | unreadable {answer : Device.Answer} {b : Breakdown}
      (h : Device.Value.textOf answer.value = .error b) : Derails a (.ok answer) b
  | jammed {answer : Device.Answer} {text : String} {b : Breakdown}
      (h : Device.Value.textOf answer.value = .ok text) (hf : answer.found = true)
      (hj : a.Jams b) : Derails a (.ok answer) b

/-- What came of a request does not decide the assertion: the request failed, or its answer does
not meet the question. -/
inductive Fruitless (a : Assertion) : Except Fault Device.Answer → Prop
  | failed {e : Fault} : Fruitless a (.error e)
  | undecided {answer : Device.Answer} {text : String}
      (h : Device.Value.textOf answer.value = .ok text) (hu : a.Undecided text answer.found) :
      Fruitless a (.ok answer)

variable {p : Plan} {n : Network} {listener : Listener} {s : State} {x : Place} {t : Target}
  {a : Assertion} {outcome : Except Fault Device.Answer} {r : Result} {b : Breakdown}

theorem judge_ok (t : Target) (a : Assertion) {answer : Device.Answer} {text : String}
    (h : Device.Value.textOf answer.value = .ok text) :
    judge t a (.ok answer) = a.evaluate text answer.found := by
  simp only [judge, h]
  rfl

theorem judge_eq_error_iff : judge t a outcome = .error b ↔ Derails a outcome b := by
  cases outcome with
  | error e => exact iff_of_false nofun nofun
  | ok answer =>
    cases ht : Device.Value.textOf answer.value with
    | error b' =>
      have hjudge : judge t a (.ok answer) = .error b' := by
        simp only [judge, ht]
        rfl
      rw [hjudge]
      constructor
      · intro h
        cases h
        exact .unreadable ht
      · intro h
        cases h with
        | unreadable h =>
          cases ht.symm.trans h
          rfl
        | jammed h =>
          rw [ht] at h
          cases h
    | ok text =>
      rw [judge_ok t a ht, Assertion.evaluate_eq_error_iff]
      constructor
      · rintro ⟨hf, hj⟩
        exact .jammed ht hf hj
      · intro h
        cases h with
        | unreadable h =>
          rw [ht] at h
          cases h
        | jammed h hf hj => exact ⟨hf, hj⟩

theorem judge_verdict (h : judge t a outcome = .ok r) :
    r.verdict = .error ↔ Fruitless a outcome := by
  cases outcome with
  | error e =>
    cases h
    exact iff_of_true rfl .failed
  | ok answer =>
    obtain ⟨text, ht, he⟩ := bind_eq_ok h
    rw [Assertion.evaluate_verdict he]
    constructor
    · exact .undecided ht
    · intro hf
      cases hf with
      | undecided ht' hu =>
        cases ht.symm.trans ht'
        exact hu

theorem Place.result_eq_error_iff :
    x.result outcome = .error b ↔ Derails x.assertion outcome b := by
  rw [← judge_eq_error_iff (t := x.target), Place.result]
  cases judge x.target x.assertion outcome <;> simp [Except.map]

theorem Place.result_verdict (h : x.result outcome = .ok r) :
    r.verdict = .error ↔ Fruitless x.assertion outcome := by
  obtain ⟨q, hq, rfl⟩ := map_eq_ok h
  have hverdict : (stamp x.target q).verdict = q.verdict := rfl
  rw [hverdict]
  exact judge_verdict hq

/-- At the place one request was made, over a connection to its target, and this came of it. -/
def Place.Answered (p : Plan) (n : Network) (s : State) (x : Place)
    (outcome : Except Fault Device.Answer) : Prop :=
  ∃ c limit timeout ending, c = connection p.settings limit x.target ∧
    s.history x.position.1 x.position.2 =
      exchange x.position.1 x.position.2 c x.assertion timeout ++ ending ∧
    (n.fetch x.position.1 x.position.2 c x.assertion.path timeout).outcome = outcome

theorem Place.Answered.fetch {c : Device.Connection} {timeout : Binary64} {ending : List Event}
    (h : x.Answered p n s outcome)
    (hh : s.history x.position.1 x.position.2 =
      exchange x.position.1 x.position.2 c x.assertion timeout ++ ending) :
    (n.fetch x.position.1 x.position.2 c x.assertion.path timeout).outcome = outcome := by
  obtain ⟨c', limit, timeout', ending', -, hh', ho⟩ := h
  rw [hh'] at hh
  simp only [exchange, List.cons_append, List.nil_append, List.cons.injEq, Event.asked.injEq] at hh
  obtain ⟨⟨-, -, rfl, -, rfl⟩, -⟩ := hh
  exact ho

theorem Place.Yields.answered (h : x.Yields p n s r) : ∃ outcome, x.Answered p n s outcome := by
  obtain ⟨c, limit, timeout, hc, hh, -⟩ := h
  exact ⟨_, c, limit, timeout, _, hc, hh, rfl⟩

theorem Place.BreaksOff.answered (h : x.BreaksOff p n s b) :
    ∃ outcome, x.Answered p n s outcome := by
  obtain ⟨c, limit, timeout, hc, hh, -⟩ := h
  exact ⟨_, c, limit, timeout, [], hc, by rw [hh, List.append_nil], rfl⟩

theorem Place.Answered.yields (h : x.Answered p n s outcome) (hy : x.Yields p n s r) :
    x.result outcome = .ok r := by
  obtain ⟨c, limit, timeout, -, hh, hr⟩ := hy
  rwa [h.fetch hh] at hr

theorem Place.Answered.breaksOff (h : x.Answered p n s outcome) (hb : x.BreaksOff p n s b) :
    x.result outcome = .error b := by
  obtain ⟨c, limit, timeout, -, hh, hr⟩ := hb
  rwa [h.fetch (by rw [hh, List.append_nil])] at hr

theorem Place.Yields.recorded (h : x.Yields p n s r) :
    .recorded x.position.1 x.position.2 r ∈ s.events := by
  obtain ⟨c, limit, timeout, -, hh, -⟩ := h
  have hm : .recorded x.position.1 x.position.2 r ∈ s.history x.position.1 x.position.2 := by
    simp [hh]
  exact mem_events_of_history hm

/-! ### Ends of runs -/

/-- How a run ends in which this came of the requests. -/
structure EndsWith (p : Plan) (n : Network) (s : State)
    (answers : Place → Except Fault Device.Answer) : Prop where
  /-- For every assertion there was one request. -/
  answered : ∀ x ∈ p.places, x.Answered p n s (answers x)
  /-- The results are those of the single answers, except for evaluations that break off. -/
  results : s.results.map Except.ok =
    (p.places.map fun x => x.result (answers x)).filter Except.isOk
  told : s.tellings.Perm s.results
  /-- Answers that do not decide their assertion make results that are errors, no others do. -/
  errors : ∀ x ∈ p.places, ∀ r, x.result (answers x) = .ok r →
    (r.verdict = .error ↔ Fruitless x.assertion (answers x))
  outcome : (∀ x ∈ p.places, ∀ b, ¬Derails x.assertion (answers x) b) →
    conclude s = ⟨[], .ok s.outcome⟩ ∧ s.outcome.cancelled = false ∧
      s.outcome.results.map Except.ok = p.places.map fun x => x.result (answers x)
  /-- One evaluation that breaks off is enough for the run to have no outcome. -/
  derailed : (∃ x ∈ p.places, ∃ b, Derails x.assertion (answers x) b) →
    ∃ x ∈ p.places, ∃ b, Derails x.assertion (answers x) b ∧
      conclude s = ⟨[], .error (.breakdown b)⟩

variable {answers : Place → Except Fault Device.Answer}

theorem map_ok_of_yields {xs : List Place} {rs : List Result}
    (h : List.Forall₂ (Place.Yields p n s) xs rs)
    (ha : ∀ x ∈ xs, x.Answered p n s (answers x)) :
    rs.map Except.ok = xs.map fun x => x.result (answers x) := by
  induction h with
  | nil => rfl
  | cons hxr hrest ih =>
    have hx := (ha _ (List.mem_cons_self ..)).yields hxr
    have hxs := ih fun x hx => ha x (List.mem_cons_of_mem _ hx)
    rw [List.map_cons, List.map_cons, hx, hxs]

section

variable (ha : ∀ x ∈ p.places, x.Answered p n s (answers x))
  (he : ∀ x ∈ p.places, (∃ r, x.Yields p n s r) ∨ ∃ b, x.BreaksOff p n s b)

include ha he

theorem places_of_answers :
    s.places p = p.places.filter fun x => (x.result (answers x)).isOk := by
  refine List.filter_congr fun x hx => ?_
  obtain ⟨r, hr⟩ | ⟨b, hb⟩ := he x hx
  · have hm := mem_positions.2 ⟨r, hr.recorded⟩
    rw [(ha x hx).yields hr]
    exact decide_eq_true hm
  · have hm : x.position ∉ s.records.map Record.position := fun hm => by
      obtain ⟨r, hr⟩ := mem_positions.1 hm
      exact hb.not_recorded hr
    rw [(ha x hx).breaksOff hb]
    exact decide_eq_false hm

theorem derails_iff (hx : x ∈ p.places) :
    Derails x.assertion (answers x) b ↔ x.BreaksOff p n s b := by
  rw [← Place.result_eq_error_iff]
  constructor
  · intro h
    obtain ⟨r, hr⟩ | ⟨b', hb⟩ := he x hx
    · cases h.symm.trans ((ha x hx).yields hr)
    · cases h.symm.trans ((ha x hx).breaksOff hb)
      exact hb
  · exact (ha x hx).breaksOff

end

theorem Settled.exists_answers (h : Settled p n listener s)
    (hnone : ∀ i c e, ¬Rejected p n s i c e) :
    ∃ answers : Place → Except Fault Device.Answer,
      ∀ x ∈ p.places, x.Answered p n s (answers x) := by
  have hanswer : ∀ x, ∃ outcome, x ∈ p.places → x.Answered p n s outcome := by
    intro x
    by_cases hx : x ∈ p.places
    · obtain ⟨r, hr⟩ | ⟨b, hb⟩ := h.evaluated hx (hnone _)
      · exact hr.answered.imp fun _ ho _ => ho
      · exact hb.answered.imp fun _ ho _ => ho
    · exact ⟨.error .endless, fun hx' => absurd hx' hx⟩
  exact Classical.skolem.1 hanswer

theorem Settled.endsWith (h : Settled p n listener s) (hnone : ∀ i c e, ¬Rejected p n s i c e) :
    ∃ answers, EndsWith p n s answers := by
  obtain ⟨answers, ha⟩ := h.exists_answers hnone
  have he : ∀ x ∈ p.places, (∃ r, x.Yields p n s r) ∨ ∃ b, x.BreaksOff p n s b :=
    fun x hx => h.evaluated hx (hnone _)
  have hresults : s.results.map Except.ok =
      (p.places.map fun x => x.result (answers x)).filter Except.isOk := by
    have hmap := map_ok_of_yields h.sound.results fun x hx => ha x (List.mem_of_mem_filter hx)
    rw [hmap, places_of_answers ha he, List.filter_map]
    rfl
  refine ⟨answers, ha, hresults, ?_, ?_, ?_, ?_⟩
  · rw [h.tellings]
    exact (perm_results s).symm
  · exact fun x hx r hr => Place.result_verdict hr
  · intro hsteady
    have hwhole : ∀ x ∈ p.places, ∀ b, ¬x.BreaksOff p n s b := fun x hx b hb =>
      hsteady x hx b ((derails_iff ha he hx).2 hb)
    have hok : conclude s = ⟨[], .ok s.outcome⟩ := h.conclude_ok hwhole hnone
    -- No result is an error, so none is filtered out.
    refine ⟨hok, h.uncut, hresults.trans (List.filter_eq_self.2 fun y hy => ?_)⟩
    obtain ⟨x, hx, rfl⟩ := List.mem_map.1 hy
    cases hr : x.result (answers x) with
    | ok r => rfl
    | error b => exact absurd (Place.result_eq_error_iff.1 hr) (hsteady x hx b)
  · rintro ⟨x, hx, b, hb⟩
    have hbreaks := (derails_iff ha he hx).1 hb
    obtain ⟨y, b', hy, hb', hconclude⟩ | ⟨hwhole, -⟩ := h.conclude_cases
    · exact ⟨y, hy, b', (derails_iff ha he hy).2 hb', hconclude⟩
    · exact absurd hbreaks (hwhole x hx b)

/-- Every run can be worked to its end. If it is over, nothing stopped or disturbed it and all
sessions were opened, then it has an outcome with the result of every answer unless an evaluation
breaks off, and a result is an error exactly if its own answer does not decide its assertion. -/
theorem ends_with_answers (p : Plan) (workers parallel : Int) (n : Network) (listener : Listener)
    (schedule : List Move) :
    let q := p.limited workers parallel
    (∃ rest, rest.all Move.isWork = true ∧ rest.length ≤ q.moves ∧
      (follow q n listener (schedule ++ rest) (.start q)).isOver = true) ∧
    ∀ s, s = follow q n listener schedule (.start q) → s.isOver = true →
      unstopped q n listener schedule (.start q) = true → Undisturbed n listener s →
      (∀ i c e, .refused i c e ∉ s.events) → ∃ answers, EndsWith q n s answers := by
  intro q
  refine ⟨exists_end p workers parallel n listener schedule, ?_⟩
  rintro s rfl hover hstop hu hopened
  exact (settled_follow hover hstop hu).endsWith fun i c e hr => hopened i c e hr.refused

/-! ### Small runs -/

/-- The small plan with other assertions. -/
def routerPlan (assertions : List Assertion) : Plan :=
  { smallPlan with targets := [⟨"router", .none, assertions⟩] }

/-- A question that only a number answers. -/
def askAbove : Assertion := ⟨"/counters", some ⟨.above, .text "1"⟩, "", ""⟩

theorem ends_with_mixed_answers :
    let q := (routerPlan [askAbove, askPresence "/system"]).limited 0 (-3)
    let s := follow q calmNetwork .silent reversedSchedule (.start q)
    s.isOver = true ∧ unstopped q calmNetwork .silent reversedSchedule (.start q) = true ∧
      Undisturbed calmNetwork .silent s ∧ (∀ i c e, .refused i c e ∉ s.events) ∧
      s.tellings.map Result.verdict = [.pass, .error] ∧
      ∃ answers, EndsWith q calmNetwork s answers := by
  intro q s
  have hover : s.isOver = true := by decide +kernel
  have hstop : unstopped q calmNetwork .silent reversedSchedule (.start q) = true := by
    decide +kernel
  have hu : Undisturbed calmNetwork .silent s := ⟨fun _ _ _ => rfl, fun _ _ _ => rfl⟩
  have hopened : ∀ i c e, .refused i c e ∉ s.events := (smooth_calm (by decide +kernel)).opened
  have hverdicts : s.tellings.map Result.verdict = [.pass, .error] := by decide +kernel
  exact ⟨hover, hstop, hu, hopened, hverdicts,
    (ends_with_answers (routerPlan [askAbove, askPresence "/system"]) 0 (-3) calmNetwork .silent
      reversedSchedule).2 s rfl hover hstop hu hopened⟩

/-- A pattern with too many repetitions. -/
def askLarge : Assertion := ⟨"/interfaces", some ⟨.fits, .text "x{4294967295}"⟩, "", ""⟩

/-- One bad operand is enough for a run to have no outcome. -/
theorem no_outcome_of_large_pattern :
    let q := (routerPlan [askLarge, askPresence "/system"]).limited 0 (-3)
    let s := follow q calmNetwork .silent reversedSchedule (.start q)
    s.isOver = true ∧ unstopped q calmNetwork .silent reversedSchedule (.start q) = true ∧
      Undisturbed calmNetwork .silent s ∧ (∀ i c e, .refused i c e ∉ s.events) ∧
      ∀ o, (conclude s).outcome ≠ .ok o := by
  intro q s
  have hover : s.isOver = true := by decide +kernel
  have hstop : unstopped q calmNetwork .silent reversedSchedule (.start q) = true := by
    decide +kernel
  have hu : Undisturbed calmNetwork .silent s := ⟨fun _ _ _ => rfl, fun _ _ _ => rfl⟩
  have hopened : ∀ i c e, .refused i c e ∉ s.events := (smooth_calm (by decide +kernel)).opened
  have hfails : (conclude s).outcome.isOk = false := by decide +kernel
  refine ⟨hover, hstop, hu, hopened, fun o ho => ?_⟩
  rw [ho] at hfails
  cases hfails

end StateCheck.Run
