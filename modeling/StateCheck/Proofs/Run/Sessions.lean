import StateCheck.Proofs.Run.Results

/-!
The sessions of a run: which targets were reached, and what became of those that were not. A run
that ends with an outcome and was not cut short has reached them all.
-/

namespace StateCheck.Run

section

variable (s : State) (i : Nat)

/-- What the events tell of the session of a visit that is as far as given. -/
inductive Arrived : Visit → Prop
  | waiting : Arrived .waiting
  | admitted : Arrived .admitted
  | visiting {c : Device.Connection} {tasks : List Task} (h : .opened i c ∈ s.events) :
      Arrived (.visiting c tasks)
  | skipped (h : s.cutShort = true) : Arrived .done
  | refused {e : Fault} (h : .failed i e ∈ s.events) : Arrived .done
  | left {c : Device.Connection} (h : .opened i c ∈ s.events) : Arrived .done

end

/-- Sessions are opened with the targets of the plan alone, each refusal ends its visit, and no
visit passes its target by unless the run is cut short. -/
structure Sessions (p : Plan) (n : Network) (s : State) : Prop where
  visits : ∀ i v, s.visits[i]? = some v → Arrived s i v
  opened : ∀ i c, .opened i c ∈ s.events → n.connect i c = none ∧
    ∃ t limit, p.targets[i]? = some t ∧ c = connection p.settings limit t
  refused : ∀ i c e, .refused i c e ∈ s.events → ∃ e', .failed i e' ∈ s.events

variable {p : Plan} {n : Network} {listener : Listener} {s s' : State} {i j : Nat}

theorem Arrived.mono {v : Visit} (h : Arrived s i v) (he : s.events ⊆ s'.events)
    (hc : s.cutShort = true → s'.cutShort = true) : Arrived s' i v := by
  cases h with
  | waiting => exact .waiting
  | admitted => exact .admitted
  | visiting h => exact .visiting (he h)
  | skipped h => exact .skipped (hc h)
  | refused h => exact .refused (he h)
  | left h => exact .left (he h)

theorem TaskStep.session_events {t : Target} {a : Assertion} {c : Device.Connection}
    {tasks : List Task} {task task' : Task} {e : Effect} {k : Nat} {c' : Device.Connection}
    (h : TaskStep p n listener s i j t a c tasks task task' e) :
    .opened k c' ∉ e.events ∧ ∀ f, .refused k c' f ∉ e.events := by
  cases h with
  | replied hr => split <;> simp
  | leftOut | begun | asked | judged | brokenOff | recorded => simp

theorem VisitStep.arrived {v v' : Visit} {e : Effect} (h : VisitStep p n listener s i v v' e)
    (hv : Arrived s i v) : Arrived (s.after i v' e) i v' := by
  cases h with
  | leftOut => exact .skipped (by simp [State.after])
  | admitted => exact .admitted
  | @refused _ c e =>
    have hm : .failed i (refusal c e) ∈ [Event.refused i c e, .failed i (refusal c e)] := by simp
    exact .refused (List.mem_append_right _ hm)
  | opened => exact .visiting (List.mem_append_right _ (List.mem_cons_self ..))
  | closed | failed =>
    cases hv with
    | visiting h => exact .left (List.mem_append_left _ h)
  | task =>
    cases hv with
    | visiting h => exact .visiting (List.mem_append_left _ h)

theorem VisitStep.opened_session {v v' : Visit} {e : Effect} {k : Nat} {c : Device.Connection}
    (h : VisitStep p n listener s i v v' e) (hm : .opened k c ∈ e.events) :
    n.connect k c = none ∧ ∃ t limit, p.targets[k]? = some t ∧
      c = connection p.settings limit t := by
  cases h with
  | opened ht hc hn =>
    obtain ⟨rfl, rfl⟩ : k = i ∧ c = _ := by simpa using hm
    exact ⟨hn, _, _, ht, hc⟩
  | task ht ha hj hstep => exact absurd hm hstep.session_events.1
  | leftOut | admitted | refused | closed | failed => simp at hm

theorem VisitStep.refused_fails {v v' : Visit} {e : Effect} {k : Nat} {c : Device.Connection}
    {f : Fault} (h : VisitStep p n listener s i v v' e) (hm : .refused k c f ∈ e.events) :
    ∃ f', .failed k f' ∈ e.events := by
  cases h with
  | refused ht hc hn =>
    obtain ⟨rfl, -⟩ : k = i ∧ _ := by simpa using hm
    exact ⟨_, List.mem_cons_of_mem _ (List.mem_cons_self ..)⟩
  | task ht ha hj hstep => exact absurd hm (hstep.session_events.2 f)
  | leftOut | admitted | opened | closed | failed => simp at hm

theorem Sessions.after {v v' : Visit} {e : Effect} (hs : Sessions p n s)
    (hv : s.visits[i]? = some v) (h : VisitStep p n listener s i v v' e) :
    Sessions p n (s.after i v' e) where
  visits k w hw := by
    have hlt : i < s.visits.length := (List.getElem?_eq_some_iff.1 hv).1
    by_cases hik : i = k
    · subst k
      obtain rfl : v' = w := by simpa [State.after, List.getElem?_set, hlt] using hw
      exact h.arrived (hs.visits i v hv)
    · have hw' : s.visits[k]? = some w := by simpa [State.after, List.getElem?_set_ne hik] using hw
      have hcut : s.cutShort = true → (s.after i v' e).cutShort = true := fun hc => by
        simp [State.after, hc]
      exact (hs.visits k w hw').mono (List.subset_append_left ..) hcut
  opened k c hm := by
    rcases List.mem_append.1 hm with hm | hm
    · exact hs.opened k c hm
    · exact h.opened_session hm
  refused k c f hm := by
    rcases List.mem_append.1 hm with hm | hm
    · obtain ⟨f', hf'⟩ := hs.refused k c f hm
      exact ⟨f', List.mem_append_left _ hf'⟩
    · obtain ⟨f', hf'⟩ := h.refused_fails hm
      exact ⟨f', List.mem_append_right _ hf'⟩

theorem sessions_start (p : Plan) (n : Network) : Sessions p n (.start p) where
  visits i v hv := by
    obtain ⟨t, -, rfl⟩ := List.mem_map.1 (List.mem_of_getElem? hv)
    exact .waiting
  opened i c h := by cases h
  refused i c e h := by cases h

theorem sessions_follow (p : Plan) (n : Network) (listener : Listener) (schedule : List Move) :
    Sessions p n (follow p n listener schedule (.start p)) := by
  refine follow_induction ?_ schedule (sessions_start p n)
  intro s s' hs h
  cases h with
  | work h =>
    cases h with
    | still => exact hs
    | visit hv hstep => exact hs.after hv hstep
  | cancel | pass =>
    exact ⟨fun i v hv => (hs.visits i v hv).mono (List.Subset.refl _) id, hs.opened, hs.refused⟩

/-- Every session was opened if the run is over, was not cut short and no visit failed. -/
theorem Sessions.exists_opened {t : Target} (hs : Sessions p n s) (hsound : Sound p n listener s)
    (hover : s.isOver = true) (hf : ∀ i e, .failed i e ∉ s.events) (hc : s.cutShort = false)
    (ht : p.targets[i]? = some t) :
    ∃ c limit, c = connection p.settings limit t ∧ n.connect i c = none ∧
      .opened i c ∈ s.events := by
  have hlt : i < s.visits.length := hsound.length ▸ (List.getElem?_eq_some_iff.1 ht).1
  obtain ⟨v, hv⟩ : ∃ v, s.visits[i]? = some v := ⟨_, List.getElem?_eq_getElem hlt⟩
  have hdone := List.all_eq_true.1 hover v (List.mem_of_getElem? hv)
  cases hs.visits i v hv with
  | waiting | admitted | visiting => cases hdone
  | skipped h =>
    rw [hc] at h
    cases h
  | refused h => exact absurd h (hf _ _)
  | left h =>
    obtain ⟨hn, t', limit, ht', hconn⟩ := hs.opened _ _ h
    obtain rfl := Option.some.inj (ht.symm.trans ht')
    exact ⟨_, limit, hconn, hn, h⟩

/-- A session is refused only in a run in which a visit fails. -/
theorem Sessions.not_refused (hs : Sessions p n s) (hf : ∀ i e, .failed i e ∉ s.events)
    (i : Nat) (c : Device.Connection) (e : Fault) : .refused i c e ∉ s.events := by
  intro h
  obtain ⟨e', he'⟩ := hs.refused i c e h
  exact hf i e' he'

/-- Every target of the plan was reached, and each of its assertions has the result that its
answer yields. -/
structure Covered (p : Plan) (n : Network) (s : State) (results : List Result) : Prop where
  opened : ∀ i t, p.targets[i]? = some t → ∃ c limit, c = connection p.settings limit t ∧
    n.connect i c = none ∧ .opened i c ∈ s.events
  refused : ∀ i c e, .refused i c e ∉ s.events
  results : List.Forall₂ (Place.Yields p n s) p.places results

/-- Nothing is left out of a run that has an outcome and was not cancelled. -/
theorem covered_of_conclude {schedule : List Move} {o : Outcome}
    (hover : (follow p n listener schedule (.start p)).isOver = true)
    (hconclude : (conclude (follow p n listener schedule (.start p))).outcome = .ok o)
    (hcancelled : o.cancelled = false) :
    Covered p n (follow p n listener schedule (.start p)) o.results := by
  have hsound := sound_follow p n listener schedule
  have hsessions := sessions_follow p n listener schedule
  obtain ⟨hf, rfl⟩ := conclude_eq_ok_iff.1 hconclude
  have hnone : ∀ i e, .failed i e ∉ (follow p n listener schedule (.start p)).events := by
    intro i e he
    have hm := mem_failures.2 he
    rw [hf] at hm
    cases hm
  have hyields := hsound.results
  rw [hsound.places_eq hover hf hcancelled] at hyields
  exact ⟨fun i t ht => hsessions.exists_opened hsound hover hnone hcancelled ht,
    hsessions.not_refused hnone, hyields⟩

end StateCheck.Run
