import StateCheck.Proofs.Run.Progress
import StateCheck.Proofs.Run.Results

/-!
Completeness of runs: a run that nothing stops or breaks off has a result for every assertion, and
the results depend on the answers alone.
-/

namespace StateCheck.Run

variable {p : Plan} {n : Network} {listener : Listener} {s s' : State}

/-! ### Runs that are not stopped -/

/-- Whether no state on the way of a schedule is stopped. -/
def unstopped (p : Plan) (n : Network) (listener : Listener) : List Move → State → Bool
  | [], s => !s.isStopped p
  | m :: schedule, s => !s.isStopped p && unstopped p n listener schedule (step p n listener s m)

theorem TaskStep.cuts {i j : Nat} {t : Target} {a : Assertion} {c : Device.Connection}
    {tasks : List Task} {task task' : Task} {e : Effect}
    (h : TaskStep p n listener s i j t a c tasks task task' e) (hs : s.isStopped p = false) :
    e.cuts = false := by
  cases h with
  | leftOut hfree hstop =>
    rw [hs] at hstop
    cases hstop
  | judged | brokenOff => simp [hs]
  | begun | asked | replied | recorded => rfl

theorem VisitStep.cuts {i : Nat} {v v' : Visit} {e : Effect}
    (h : VisitStep p n listener s i v v' e) (hs : s.isStopped p = false) : e.cuts = false := by
  cases h with
  | leftOut hfree hstop =>
    rw [hs] at hstop
    cases hstop
  | task ht ha hj hstep => exact hstep.cuts hs
  | admitted | refused | opened | closed | failed => rfl

theorem Change.cutShort (h : Change p n listener s s') (hs : s.isStopped p = false) :
    s'.cutShort = s.cutShort := by
  cases h with
  | work h =>
    cases h with
    | still => rfl
    | visit hv hstep => rw [State.after, hstep.cuts hs, Bool.or_false]
  | cancel | pass => rfl

/-- Only stopping cuts a run short. -/
theorem cutShort_follow {schedule : List Move} (h : unstopped p n listener schedule s = true)
    (hs : s.cutShort = false) : (follow p n listener schedule s).cutShort = false := by
  induction schedule generalizing s with
  | nil => exact hs
  | cons m schedule ih =>
    obtain ⟨hstop, hrest⟩ := (Bool.and_eq_true ..).mp h
    refine ih hrest ?_
    rw [(change_step m).cutShort (by simpa using hstop), hs]

/-! ### Runs that nothing breaks off -/

/-- Sessions open and close, the listener takes all results, and every answer can be read. -/
structure Smooth (n : Network) (listener : Listener) (s : State) : Prop where
  opened : ∀ i c e, .refused i c e ∉ s.events
  closed : ∀ i c, .closed i c ∈ s.events → n.close i c = none
  heard : ∀ count r, .told count r ∈ s.events → (listener count r).fault = none
  readable : ∀ i j c path timeout answer, .asked i j c path timeout ∈ s.events →
    (n.fetch i j c path timeout).outcome = .ok answer →
    ∃ text, Device.Value.textOf answer.value = .ok text

theorem exists_judge {a : Assertion} (h : a.Searchable) (t : Target)
    {outcome : Except Fault Device.Answer}
    (htext : ∀ answer, outcome = .ok answer → ∃ text, Device.Value.textOf answer.value = .ok text) :
    ∃ r, judge t a outcome = .ok r := by
  cases outcome with
  | error e => exact ⟨_, rfl⟩
  | ok answer =>
    obtain ⟨text, ht⟩ := htext answer rfl
    obtain ⟨r, hr⟩ := Assertion.exists_evaluate h text answer.found
    refine ⟨r, ?_⟩
    simp only [judge, ht]
    exact hr

theorem Smooth.failures (h : Smooth n listener s) (hs : Sound p n listener s)
    (hsearch : ∀ t ∈ p.targets, ∀ a ∈ t.assertions, a.Searchable) : s.failures = [] := by
  refine List.eq_nil_iff_forall_not_mem.2 fun ⟨i, f⟩ hf => ?_
  cases hs.failures i f (mem_failures.1 hf) with
  | refused hr => exact h.opened _ _ _ hr
  | closing hc hn =>
    rw [h.closed _ _ hc] at hn
    cases hn
  | brokenOff ht ha hasked hj =>
    have hsearchable := hsearch _ (List.mem_of_getElem? ht) _ (List.mem_of_getElem? ha)
    obtain ⟨r, hr⟩ := exists_judge hsearchable _ fun answer => h.readable _ _ _ _ _ answer hasked
    rw [hr] at hj
    cases hj
  | listener htold hl =>
    rw [h.heard _ _ htold] at hl
    cases hl

/-! ### Completeness -/

/-- The plan with limits on concurrent work as a run is given them. -/
def Plan.limited (p : Plan) (workers parallel : Int) : Plan :=
  { p with workers := atLeastOne workers, parallel := atLeastOne parallel }

theorem atLeastOne_pos (k : Int) : 0 < atLeastOne k := Nat.le_max_right ..

theorem results_of_answers {xs : List Place} {rs : List Result}
    (h : List.Forall₂ (Place.Yields p n s) xs rs)
    {answers : Nat → Nat → Except Fault Device.Answer}
    (ha : ∀ i j c path timeout, (n.fetch i j c path timeout).outcome = answers i j) :
    rs.map Except.ok = xs.map fun x => x.result (answers x.position.1 x.position.2) := by
  induction h with
  | nil => rfl
  | cons hxr hrest ih =>
    obtain ⟨c, limit, timeout, -, -, hr⟩ := hxr
    rw [ha] at hr
    rw [List.map_cons, List.map_cons, ih, hr]

/-- Every schedule can be worked to its end in a bounded number of moves. If the run is over and
nothing stopped it or broke it off, it has the result of every assertion in the order of the
assertion file, each from the one request for it; the listener was told them once each; and the
results depend on nothing but the answers. -/
theorem complete_of_unstopped (p : Plan) (workers parallel : Int) (n : Network)
    (listener : Listener) (hsearch : ∀ t ∈ p.targets, ∀ a ∈ t.assertions, a.Searchable)
    (schedule : List Move) :
    let q := p.limited workers parallel
    (∃ rest, rest.all Move.isWork = true ∧ rest.length ≤ q.moves ∧
      (follow q n listener (schedule ++ rest) (.start q)).isOver = true) ∧
    ∀ s, s = follow q n listener schedule (.start q) → s.isOver = true →
      unstopped q n listener schedule (.start q) = true → Smooth n listener s →
      ∃ o, conclude s = ⟨[], .ok o⟩ ∧ o.cancelled = false ∧
        o.results.map labelOf = q.places.map Place.label ∧
        List.Forall₂ (Place.Yields q n s) q.places o.results ∧ s.tellings.Perm o.results ∧
        ∀ answers : Nat → Nat → Except Fault Device.Answer,
          (∀ i j c path timeout, (n.fetch i j c path timeout).outcome = answers i j) →
          o.results.map Except.ok =
            q.places.map fun x => x.result (answers x.position.1 x.position.2) := by
  intro q
  have hsound := sound_follow q n listener schedule
  constructor
  · obtain ⟨rest, hwork, hlen, hover⟩ :=
      exists_isOver hsound (atLeastOne_pos workers) (atLeastOne_pos parallel)
    refine ⟨rest, hwork, hlen.trans (left_follow_le q n listener schedule), ?_⟩
    rwa [follow, List.foldl_append]
  · intro s hs hover hstop hsmooth
    rw [← hs] at hsound
    have hf : s.failures = [] := hsmooth.failures hsound hsearch
    have hc : s.cutShort = false := hs ▸ cutShort_follow hstop rfl
    have hyields := hsound.results
    rw [hsound.places_eq hover hf hc] at hyields
    refine ⟨s.outcome, ?_, hc, labels_eq hyields, hyields, ?_, fun answers ha =>
      results_of_answers hyields ha⟩
    · rw [conclude_of_failures_eq_nil hf, hc]
      rfl
    · rw [hs, tellings_follow]
      exact (perm_results _).symm

/-- The second assertion is evaluated before the first one. -/
def reversedSchedule : List Move :=
  [.target 0, .target 0] ++ List.replicate 5 (.assertion 0 1) ++
    List.replicate 5 (.assertion 0 0) ++ [.target 0]

theorem searchable_small : ∀ t ∈ smallPlan.targets, ∀ a ∈ t.assertions, a.Searchable := by
  simp [smallPlan, askPresence, Assertion.Searchable]

theorem smooth_calm {s : State}
    (hs : s.events.any (fun e => match e with | .refused .. => true | _ => false) = false) :
    Smooth calmNetwork .silent s where
  opened i c e h := List.any_eq_false.1 hs _ h rfl
  closed i c h := rfl
  heard count r h := rfl
  readable i j c path timeout answer h ha := by
    cases ha
    exact ⟨"", rfl⟩

theorem complete_of_reversed :
    let q := smallPlan.limited 0 (-3)
    let s := follow q calmNetwork .silent reversedSchedule (.start q)
    s.isOver = true ∧ unstopped q calmNetwork .silent reversedSchedule (.start q) = true ∧
      Smooth calmNetwork .silent s ∧
      ∃ o, conclude s = ⟨[], .ok o⟩ ∧ o.cancelled = false ∧
        o.results.map labelOf =
          [("router", askPresence "/interfaces"), ("router", askPresence "/system")] := by
  intro q s
  have hover : s.isOver = true := by decide +kernel
  have hstop : unstopped q calmNetwork .silent reversedSchedule (.start q) = true := by
    decide +kernel
  have hsmooth : Smooth calmNetwork .silent s := smooth_calm (by decide +kernel)
  obtain ⟨o, ho, hc, hl, -⟩ := (complete_of_unstopped smallPlan 0 (-3) calmNetwork .silent
    searchable_small reversedSchedule).2 s rfl hover hstop hsmooth
  exact ⟨hover, hstop, hsmooth, o, ho, hc, hl⟩

end StateCheck.Run
