import StateCheck.Proofs.Run.Completeness
import StateCheck.Proofs.Run.Settlement

/-!
The faults with which the visits of a run end if nothing stops it, and what is concluded from
them.
-/

namespace StateCheck.Run

/-- Sessions close and the listener takes all results. -/
structure Undisturbed (n : Network) (listener : Listener) (s : State) : Prop where
  closed : ∀ i c, .closed i c ∈ s.events → n.close i c = none
  heard : ∀ count r, .told count r ∈ s.events → (listener count r).fault = none

/-- The state of a run that is over, that nothing cut short and that nothing disturbed. -/
structure Settled (p : Plan) (n : Network) (listener : Listener) (s : State) : Prop where
  sound : Sound p n listener s
  logbook : Logbook p n listener s
  isOver : s.isOver = true
  uncut : s.cutShort = false
  tellings : s.tellings = s.records.map Record.result
  undisturbed : Undisturbed n listener s

variable {p : Plan} {n : Network} {listener : Listener} {s : State} {i j : Nat} {x : Place}
  {t : Target} {c : Device.Connection} {tasks : List Task} {e f : Fault}

theorem settled_follow {schedule : List Move}
    (hover : (follow p n listener schedule (.start p)).isOver = true)
    (hstop : unstopped p n listener schedule (.start p) = true)
    (hu : Undisturbed n listener (follow p n listener schedule (.start p))) :
    Settled p n listener (follow p n listener schedule (.start p)) where
  sound := sound_follow p n listener schedule
  logbook := logbook_follow p n listener schedule
  isOver := hover
  uncut := cutShort_follow hstop rfl
  tellings := tellings_follow p n listener schedule
  undisturbed := hu

/-! ### Targets and places -/

/-- The target was tried, in vain. -/
structure Rejected (p : Plan) (n : Network) (s : State) (i : Nat) (c : Device.Connection)
    (e : Fault) : Prop where
  log : s.logged i = [.refused i c e, .failed i (refusal c e)]
  reaches : p.Reaches i c
  connect : n.connect i c = some e

/-- The target was visited over a session and left. -/
structure Served (p : Plan) (n : Network) (listener : Listener) (s : State) (i : Nat) (t : Target)
    (c : Device.Connection) (tasks : List Task) (talk : List Event) : Prop where
  log : WholeSession i c talk ((tasks.findSome? Task.fault?).map (.failed i)).toList (s.logged i)
  connect : n.connect i c = none
  target : p.targets[i]? = some t
  session : Session p n listener s i t c tasks
  isOver : tasks.all Task.isOver = true

theorem Settled.target_cases (h : Settled p n listener s) (ht : p.targets[i]? = some t) :
    (∃ c e, Rejected p n s i c e) ∨ ∃ c tasks talk, Served p n listener s i t c tasks talk := by
  have hlt : i < s.visits.length := h.sound.length ▸ (List.getElem?_eq_some_iff.1 ht).1
  cases h.logbook.done h.isOver hlt with
  | skipped hlog hcut =>
    rw [h.uncut] at hcut
    cases hcut
  | refused hlog hc hn => exact .inl ⟨_, _, hlog, hc, hn⟩
  | @left t' c tasks talk fault hlog htalk hn ht' hsession hover hf =>
    obtain rfl := Option.some.inj (ht.symm.trans ht')
    have hclosed : .closed i c ∈ s.events := by
      have hm : .closed i c ∈ s.logged i := by simp [hlog]
      exact (mem_logOf.1 hm).1
    rw [h.undisturbed.closed i c hclosed, Option.none_or] at hf
    subst hf
    refine .inr ⟨c, tasks, talk, ⟨hlog, htalk, fun e he => ?_⟩, hn, ht, hsession, hover⟩
    obtain ⟨f, -, rfl⟩ := Option.map_eq_some_iff.1 (Option.mem_toList.1 he)
    exact ⟨f, rfl⟩

theorem Rejected.refused (h : Rejected p n s i c e) : .refused i c e ∈ s.events := by
  have hm : .refused i c e ∈ s.logged i := by simp [h.log]
  exact (mem_logOf.1 hm).1

theorem Rejected.failed (h : Rejected p n s i c e) : .failed i (refusal c e) ∈ s.events := by
  have hm : .failed i (refusal c e) ∈ s.logged i := by simp [h.log]
  exact (mem_logOf.1 hm).1

theorem Rejected.history (h : Rejected p n s i c e) (j : Nat) : s.history i j = [] := by
  rw [State.history, ← historyOf_logOf, ← State.logged, h.log]
  rfl

/-- Every assertion of a target that was not refused was evaluated, or its evaluation broke off. -/
theorem Settled.place_cases (h : Settled p n listener s) (hx : x ∈ p.places) :
    (∃ c e, Rejected p n s x.position.1 c e) ∨
      (∃ r, x.Yields p n s r) ∨ ∃ b, x.BreaksOff p n s b := by
  obtain ⟨ht, ha⟩ := mem_places.1 hx
  obtain hrejected | ⟨c, tasks, talk, hserved⟩ := h.target_cases ht
  · exact .inl hrejected
  · obtain ⟨-, hcut⟩ | hevaluated := hserved.session.settled hserved.isOver ha
    · rw [h.uncut] at hcut
      cases hcut
    · exact .inr hevaluated

theorem Settled.evaluated (h : Settled p n listener s) (hx : x ∈ p.places)
    (hnone : ∀ c e, ¬Rejected p n s x.position.1 c e) :
    (∃ r, x.Yields p n s r) ∨ ∃ b, x.BreaksOff p n s b := by
  obtain ⟨c, e, hr⟩ | hevaluated := h.place_cases hx
  · exact absurd hr (hnone c e)
  · exact hevaluated

/-! ### Faults -/

/-- The task of an evaluation that broke off ended with that fault, and no other task with any. -/
theorem Session.fault_cases (h : Session p n listener s i t c tasks)
    (hu : Undisturbed n listener s) (ht : p.targets[i]? = some t)
    (hf : tasks.findSome? Task.fault? = some f) :
    ∃ x b, x ∈ p.places ∧ x.position.1 = i ∧ x.BreaksOff p n s b ∧ f = .breakdown b := by
  obtain ⟨task, hm, hfault⟩ := List.exists_of_findSome?_eq_some hf
  obtain ⟨j, hj⟩ := List.mem_iff_getElem?.1 hm
  have hlt : j < t.assertions.length := h.length ▸ (List.getElem?_eq_some_iff.1 hj).1
  have ha : t.assertions[j]? = some t.assertions[j] := List.getElem?_eq_getElem hlt
  obtain ⟨limit, hc⟩ := h.limit
  cases h.courses j _ task ha hj with
  | @brokenOff timeout b hh hb =>
    cases hfault
    refine ⟨⟨(i, j), t, t.assertions[j]⟩, b, mem_places.2 ⟨ht, ha⟩, rfl, ?_, rfl⟩
    exact ⟨c, limit, timeout, hc, hh, by simp [Place.result, hb, Except.map]⟩
  | recorded hh hr htold hl =>
    rw [hu.heard _ _ htold] at hl
    subst hl
    cases hfault
  | waiting | ready | asking | answered | judged | skipped => cases hfault

/-- A visit fails because its session is refused or because an evaluation breaks off. -/
theorem Settled.failed_cases (h : Settled p n listener s) (hf : .failed i f ∈ s.events) :
    (∃ c e, Rejected p n s i c e ∧ f = refusal c e) ∨
      ∃ x b, x ∈ p.places ∧ x.position.1 = i ∧ x.BreaksOff p n s b ∧ f = .breakdown b := by
  have hm : .failed i f ∈ s.logged i := mem_logOf.2 ⟨hf, rfl⟩
  have hlt : i < p.targets.length := h.sound.length ▸ h.logbook.targets _ hf i rfl
  have ht := List.getElem?_eq_getElem hlt
  obtain ⟨c, e, hrejected⟩ | ⟨c, tasks, talk, hserved⟩ := h.target_cases ht
  · rw [hrejected.log] at hm
    exact .inl ⟨c, e, hrejected, by simpa using hm⟩
  · refine .inr (hserved.session.fault_cases h.undisturbed ht ?_)
    rw [hserved.log.log] at hm
    simp only [List.mem_cons, List.mem_append, Option.mem_toList, Option.map_eq_some_iff] at hm
    obtain hm | hm | hm | ⟨f', hf', hm⟩ := hm
    · cases hm
    · cases hserved.log.talk _ hm
    · cases hm
    · cases hm
      exact hf'

/-- An evaluation that breaks off makes its visit fail, perhaps with the fault of another one. -/
theorem Settled.exists_breakdown {b : Breakdown} (h : Settled p n listener s)
    (hx : x ∈ p.places) (hb : x.BreaksOff p n s b) :
    ∃ i b', .failed i (.breakdown b') ∈ s.events := by
  obtain ⟨ht, ha⟩ := mem_places.1 hx
  obtain ⟨c, e, hrejected⟩ | ⟨c, tasks, talk, hserved⟩ := h.target_cases ht
  · obtain ⟨c', limit, timeout, -, hh, -⟩ := hb
    rw [hrejected.history] at hh
    cases hh
  · have hfault : tasks.findSome? Task.fault? ≠ none := by
      intro hnone
      obtain ⟨r, hr⟩ := hserved.session.recorded hserved.isOver hnone h.uncut ha
      exact hb.not_recorded hr
    obtain ⟨f, hf⟩ := Option.ne_none_iff_exists'.1 hfault
    obtain ⟨y, b', -, -, -, rfl⟩ := hserved.session.fault_cases h.undisturbed ht hf
    have hm : .failed x.position.1 (.breakdown b') ∈ s.logged x.position.1 := by
      simp [hserved.log.log, hf]
    exact ⟨_, b', (mem_logOf.1 hm).1⟩

/-! ### Conclusions -/

/-- A refused session is reported as a failure to connect. -/
theorem asKind?_refusal (c : Device.Connection) (e : Fault) :
    (refusal c e).asKind? .connect ≠ none := by
  unfold refusal
  cases he : e.asKind? .connect with
  | some f => simp [he]
  | none => simp [Fault.asKind?, Failure.on, Failure.of]

theorem lowest?_cases {fs : List (Nat × Fault)} {g : Nat × Fault} (h : lowest? fs = some g) :
    g ∈ fs ∧ ∀ k ∈ fs, g.1 ≤ k.1 := by
  induction fs generalizing g with
  | nil => cases h
  | cons k fs ih =>
    rw [lowest?] at h
    cases hrest : lowest? fs with
    | none =>
      have hnil : fs = [] := by
        by_contra hne
        exact lowest?_ne_none hne hrest
      rw [hrest] at h
      cases h
      simp [hnil]
    | some g' =>
      obtain ⟨hm, hle⟩ := ih hrest
      simp only [hrest] at h
      split at h
      · next hlt =>
        cases h
        refine ⟨List.mem_cons_of_mem _ hm, fun k' hk' => ?_⟩
        rcases List.mem_cons.1 hk' with rfl | hk'
        · omega
        · exact hle k' hk'
      · next hge =>
        cases h
        refine ⟨List.mem_cons_self .., fun k' hk' => ?_⟩
        rcases List.mem_cons.1 hk' with rfl | hk'
        · exact Nat.le_refl _
        · have hk := hle k' hk'
          omega

theorem conclude_of_lowest {g : Nat × Fault}
    (hconnect : ∀ k ∈ s.failures, k.2.asKind? .connect ≠ none)
    (hg : lowest? s.failures = some g) :
    conclude s = ⟨["Run aborted: " ++ g.2.text], .error g.2⟩ := by
  have hfind : (s.failures.find? fun k => (k.2.asKind? .connect).isNone) = none :=
    List.find?_eq_none.2 fun k hk hn => hconnect k hk (Option.isNone_iff_eq_none.1 hn)
  simp only [conclude, hfind, hg]

/-- A fault that is no failure to connect hides all that are. -/
theorem conclude_of_escape {k : Nat × Fault} (hk : k ∈ s.failures)
    (hn : k.2.asKind? .connect = none) :
    ∃ f, (conclude s).outcome = .error f ∧ f.asKind? .connect = none := by
  cases hfind : s.failures.find? fun k => (k.2.asKind? .connect).isNone with
  | some g =>
    have hnone := List.find?_some hfind
    refine ⟨g.2, ?_, Option.isNone_iff_eq_none.1 hnone⟩
    simp only [conclude, hfind]
    rfl
  | none => exact absurd (Option.isNone_iff_eq_none.2 hn) (List.find?_eq_none.1 hfind k hk)

/-- What is concluded from a settled run: the fault of an evaluation that broke off, else the
refusal of the lowest target that was refused, else its outcome. -/
theorem Settled.conclude_cases (h : Settled p n listener s) :
    (∃ x b, x ∈ p.places ∧ x.BreaksOff p n s b ∧ conclude s = ⟨[], .error (.breakdown b)⟩) ∨
      (∀ x ∈ p.places, ∀ b, ¬x.BreaksOff p n s b) ∧
        ((∃ i c e, Rejected p n s i c e ∧ (∀ k c' e', Rejected p n s k c' e' → i ≤ k) ∧
            conclude s = ⟨["Run aborted: " ++ (refusal c e).text], .error (refusal c e)⟩) ∨
          (∀ i c e, ¬Rejected p n s i c e) ∧ conclude s = ⟨[], .ok s.outcome⟩) := by
  cases hfind : s.failures.find? fun k => (k.2.asKind? .connect).isNone with
  | some g =>
    -- No refusal is passed over, so this is the fault of an evaluation.
    obtain ⟨i, f⟩ := g
    have hnone := List.find?_some hfind
    have hm : .failed i f ∈ s.events := mem_failures.1 (List.mem_of_find?_eq_some hfind)
    obtain ⟨c, e, -, rfl⟩ | ⟨x, b, hx, -, hb, rfl⟩ := h.failed_cases hm
    · exact absurd (Option.isNone_iff_eq_none.1 hnone) (asKind?_refusal c e)
    · exact .inl ⟨x, b, hx, hb, by simp only [conclude, hfind]; rfl⟩
  | none =>
    have hconnect : ∀ k ∈ s.failures, k.2.asKind? .connect ≠ none := fun k hk hn =>
      List.find?_eq_none.1 hfind k hk (Option.isNone_iff_eq_none.2 hn)
    have hwhole : ∀ x ∈ p.places, ∀ b, ¬x.BreaksOff p n s b := by
      intro x hx b hb
      obtain ⟨i, b', hm⟩ := h.exists_breakdown hx hb
      exact hconnect _ (mem_failures.2 hm) rfl
    refine .inr ⟨hwhole, ?_⟩
    cases hlow : lowest? s.failures with
    | some g =>
      obtain ⟨i, f⟩ := g
      obtain ⟨hg, hle⟩ := lowest?_cases hlow
      obtain ⟨c, e, hr, rfl⟩ | ⟨x, b, hx, -, hb, -⟩ := h.failed_cases (mem_failures.1 hg)
      · refine .inl ⟨i, c, e, hr, fun k c' e' hk => ?_, conclude_of_lowest hconnect hlow⟩
        exact hle _ (mem_failures.2 hk.failed)
      · exact absurd hb (hwhole x hx b)
    | none =>
      have hnil : s.failures = [] := by
        by_contra hne
        exact lowest?_ne_none hne hlow
      refine .inr ⟨fun i c e hr => ?_, ?_⟩
      · have hm := mem_failures.2 hr.failed
        rw [hnil] at hm
        cases hm
      · rw [conclude_of_failures_eq_nil hnil, h.uncut]
        rfl

theorem Settled.conclude_ok (h : Settled p n listener s)
    (hwhole : ∀ x ∈ p.places, ∀ b, ¬x.BreaksOff p n s b)
    (hnone : ∀ i c e, ¬Rejected p n s i c e) : conclude s = ⟨[], .ok s.outcome⟩ := by
  obtain ⟨x, b, hx, hb, -⟩ | ⟨-, ⟨i, c, e, hr, -⟩ | ⟨-, hok⟩⟩ := h.conclude_cases
  · exact absurd hb (hwhole x hx b)
  · exact absurd hr (hnone i c e)
  · exact hok

end StateCheck.Run
