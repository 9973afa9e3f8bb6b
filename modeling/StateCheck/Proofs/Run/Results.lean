import Mathlib.Data.List.Forall2
import StateCheck.Proofs.Run.Records

/-!
The results of a run in the order of their assertions, and what is concluded from a final state.
-/

namespace StateCheck.Run

variable {p : Plan} {n : Network} {listener : Listener} {s : State} {i j : Nat}

/-! ### Order -/

theorem Record.le_iff (a b : Record) :
    a.le b = true ↔ Before a.position b.position ∨ a.position = b.position := by
  simp only [Record.le, Before, Record.position, Bool.or_eq_true, Bool.and_eq_true,
    decide_eq_true_eq, beq_iff_eq, Prod.mk.injEq]
  omega

theorem Record.le_trans (a b c : Record) (hab : a.le b = true) (hbc : b.le c = true) :
    a.le c = true := by
  simp only [Record.le, Bool.or_eq_true, Bool.and_eq_true, decide_eq_true_eq, beq_iff_eq] at *
  omega

theorem Record.le_total (a b : Record) : (a.le b || b.le a) = true := by
  simp only [Record.le, Bool.or_eq_true, Bool.and_eq_true, decide_eq_true_eq, beq_iff_eq]
  omega

def State.sorted (s : State) : List Record := s.records.mergeSort Record.le

theorem perm_sorted (s : State) : s.sorted.Perm s.records := List.mergeSort_perm _ _

theorem Sound.pairwise_sorted (hs : Sound p n listener s) :
    (s.sorted.map Record.position).Pairwise Before := by
  have hle := List.pairwise_mergeSort Record.le_trans Record.le_total s.records
  have hne : (s.sorted.map Record.position).Nodup :=
    ((perm_sorted s).map Record.position).nodup_iff.2 hs.nodup_records
  refine List.pairwise_map.2 (hle.imp₂ (fun a b hab h => ?_) (List.pairwise_map.1 hne))
  exact ((Record.le_iff a b).1 hab).resolve_right h

theorem forall₂_of_map_eq {α β γ : Type} {f : α → γ} {g : β → γ} {R : α → β → Prop}
    {xs : List α} {ys : List β} (h : xs.map f = ys.map g)
    (hr : ∀ x ∈ xs, ∀ y ∈ ys, f x = g y → R x y) : List.Forall₂ R xs ys := by
  induction xs generalizing ys with
  | nil =>
    obtain rfl : ys = [] := List.map_eq_nil_iff.1 h.symm
    exact .nil
  | cons x xs ih =>
    obtain ⟨y, ys, rfl, hxy, hxs⟩ := List.map_eq_cons_iff.1 h.symm
    refine .cons (hr x (List.mem_cons_self ..) y (List.mem_cons_self ..) hxy.symm) (ih hxs.symm ?_)
    exact fun x hx y hy => hr x (List.mem_cons_of_mem _ hx) y (List.mem_cons_of_mem _ hy)

/-- The places at which a result is recorded. -/
def State.places (p : Plan) (s : State) : List Place :=
  p.places.filter fun x => x.position ∈ s.records.map Record.position

theorem Sound.positions (hs : Sound p n listener s) :
    (s.places p).map Place.position = s.sorted.map Record.position := by
  have hsub : ((s.places p).map Place.position).Pairwise Before :=
    (pairwise_places p).sublist (List.filter_sublist.map Place.position)
  -- Both lists increase strictly, so it is enough that they have the same members.
  refine hsub.eq_of_mem_iff hs.pairwise_sorted fun x => ?_
  rw [((perm_sorted s).map Record.position).mem_iff, List.mem_map]
  constructor
  · rintro ⟨y, hy, rfl⟩
    exact of_decide_eq_true (List.mem_filter.1 hy).2
  · intro hx
    obtain ⟨r, hr, rfl⟩ := List.mem_map.1 hx
    obtain ⟨y, hy, hyr, -⟩ := hs.yields (mem_records.1 hr)
    exact ⟨y, List.mem_filter.2 ⟨hy, decide_eq_true (hyr ▸ hx)⟩, hyr⟩

/-- The results are those of the places at which one is recorded, in the order of the places. -/
theorem Sound.results (hs : Sound p n listener s) :
    List.Forall₂ (Place.Yields p n s) (s.places p) s.results := by
  refine List.forall₂_map_right_iff.2 (forall₂_of_map_eq hs.positions fun x hx r hr hxr => ?_)
  obtain ⟨y, hy, hyr, hyields⟩ := hs.yields (mem_records.1 ((perm_sorted s).mem_iff.1 hr))
  obtain rfl : x = y := position_inj (List.mem_filter.1 hx).1 hy (hxr.trans hyr.symm)
  exact hyields

theorem labels_eq {xs : List Place} {rs : List Result}
    (h : List.Forall₂ (Place.Yields p n s) xs rs) : rs.map labelOf = xs.map Place.label := by
  induction h with
  | nil => rfl
  | cons hxr hrest ih =>
    obtain ⟨c, limit, timeout, -, -, hr⟩ := hxr
    rw [List.map_cons, List.map_cons, ih, Place.label_result hr]

theorem perm_results (s : State) : s.results.Perm (s.records.map Record.result) :=
  (perm_sorted s).map Record.result

/-! ### Conclusions -/

theorem mem_failures {e : Fault} : (i, e) ∈ s.failures ↔ .failed i e ∈ s.events := by
  rw [State.failures, List.mem_filterMap]
  constructor
  · rintro ⟨ev, hev, h⟩
    split at h
    · cases h
      exact hev
    · cases h
  · intro h
    exact ⟨_, h, rfl⟩

theorem lowest?_ne_none {fs : List (Nat × Fault)} (h : fs ≠ []) : lowest? fs ≠ none := by
  cases fs with
  | nil => exact absurd rfl h
  | cons f fs =>
    unfold lowest?
    split
    · split <;> simp
    · simp

theorem conclude_of_failures_eq_nil (hf : s.failures = []) :
    conclude s = ⟨if s.cutShort then
      ["Run cancelled with " ++ toString s.outcome.total ++ " results recorded"] else [],
      .ok s.outcome⟩ := by
  simp only [conclude, hf, List.find?_nil, lowest?]
  rfl

/-- There is an outcome only if no visit ended with a fault. -/
theorem conclude_eq_ok_iff {o : Outcome} :
    (conclude s).outcome = .ok o ↔ s.failures = [] ∧ o = s.outcome := by
  by_cases hf : s.failures = []
  · rw [conclude_of_failures_eq_nil hf, Except.ok.injEq, eq_comm]
    exact (and_iff_right hf).symm
  · have hne := lowest?_ne_none hf
    unfold conclude
    split
    · simp [Noted.ofExcept, hf]
    · split
      · simp [hf]
      · contradiction

/-! ### Completeness -/

theorem Session.recorded {t : Target} {a : Assertion} {c : Device.Connection} {tasks : List Task}
    (h : Session p n listener s i t c tasks) (hover : tasks.all Task.isOver = true)
    (hf : tasks.findSome? Task.fault? = none) (hc : s.cutShort = false)
    (ha : t.assertions[j]? = some a) : ∃ r, .recorded i j r ∈ s.events := by
  obtain ⟨task, hj, hcourse⟩ := h.course ha
  have hm : task ∈ tasks := List.mem_of_getElem? hj
  have ho := List.all_eq_true.1 hover task hm
  have hn := List.findSome?_eq_none_iff.1 hf task hm
  cases hcourse with
  | skipped hh hcut =>
    rw [hc] at hcut
    cases hcut
  | @recorded timeout r count fault hh =>
    have hm : .recorded i j (stamp t r) ∈ s.history i j := by simp [hh]
    exact ⟨_, mem_events_of_history hm⟩
  | brokenOff => cases hn
  | waiting | ready | asking | answered | judged => cases ho

/-- A run that is over has a result at every place unless it was cut short or a visit failed. -/
theorem Sound.places_eq (hs : Sound p n listener s) (hover : s.isOver = true)
    (hf : s.failures = []) (hc : s.cutShort = false) : s.places p = p.places := by
  refine List.filter_eq_self.2 fun x hx => decide_eq_true ?_
  obtain ⟨ht, ha⟩ := mem_places.1 hx
  obtain ⟨v, hv, hvisited⟩ := hs.visited ht
  have hdone := List.all_eq_true.1 hover v (List.mem_of_getElem? hv)
  have hnone : ∀ e, .failed x.position.1 e ∉ s.events := by
    intro e he
    have hm := mem_failures.2 he
    rw [hf] at hm
    cases hm
  cases hvisited with
  | waiting | admitted | visiting => cases hdone
  | skipped h hcut =>
    rw [hc] at hcut
    cases hcut
  | refused h he => exact absurd he (hnone _)
  | @closed c tasks h hall he =>
    have hfault : (n.close x.position.1 c).or (tasks.findSome? Task.fault?) = none := by
      refine Option.eq_none_iff_forall_not_mem.2 fun e hm => hnone e (he e hm)
    obtain ⟨r, hr⟩ := h.recorded hall (Option.or_eq_none_iff.1 hfault).2 hc ha
    exact List.mem_map.2 ⟨⟨_, _, r⟩, mem_records.2 hr, rfl⟩

/-- However the steps of a run follow each other and whenever it is stopped: if it has an
outcome, the results are those of some of the assertions in their order, each from the one request
for it, the listener was told them once each, and there are results for all assertions unless the
outcome says that the run was cut short. -/
theorem results_of_conclude (p : Plan) (n : Network) (listener : Listener) (schedule : List Move)
    {s : State} {o : Outcome} (hs : s = follow p n listener schedule (.start p))
    (hover : s.isOver = true) (hok : (conclude s).outcome = .ok o) :
    ∃ xs, xs.Sublist p.places ∧ (xs.map Place.position).Nodup ∧
      o.results.map labelOf = xs.map Place.label ∧
      List.Forall₂ (Place.Yields p n s) xs o.results ∧ s.tellings.Perm o.results ∧
      (o.cancelled = false → xs = p.places) := by
  have hsound : Sound p n listener s := hs ▸ sound_follow p n listener schedule
  obtain ⟨hf, rfl⟩ := conclude_eq_ok_iff.1 hok
  refine ⟨s.places p, List.filter_sublist, ?_, labels_eq hsound.results, hsound.results, ?_, ?_⟩
  · rw [hsound.positions]
    exact ((perm_sorted s).map Record.position).nodup_iff.2 hsound.nodup_records
  · rw [hs, tellings_follow]
    exact (perm_results _).symm
  · exact hsound.places_eq hover hf

/-! ### A small run -/

def askPresence (path : String) : Assertion := ⟨path, some ⟨.present, .flag true⟩, "", ""⟩

/-- Two assertions on one device. -/
def smallPlan : Plan where
  targets := [⟨"router", .none, [askPresence "/interfaces", askPresence "/system"]⟩]
  workers := 1
  parallel := 1
  timeout := .zero
  deadline := none
  settings := none

/-- Every path exists and has no value. -/
def calmNetwork : Network where
  connect _ _ := none
  fetch _ _ _ _ _ := ⟨.ok ⟨none, true⟩, .zero, false, false⟩
  close _ _ := none

/-- The run is cancelled after the result of the first assertion. -/
def cancelledSchedule : List Move :=
  [.target 0, .target 0] ++ List.replicate 5 (.assertion 0 0) ++
    [.cancel, .assertion 0 1, .target 0]

theorem results_of_cancelled :
    let s := follow smallPlan calmNetwork .silent cancelledSchedule (.start smallPlan)
    s.isOver = true ∧ s.outcome.cancelled = true ∧ (conclude s).outcome = .ok s.outcome ∧
      ∃ xs, xs.Sublist smallPlan.places ∧ (xs.map Place.position).Nodup ∧
        s.outcome.results.map labelOf = xs.map Place.label ∧
        List.Forall₂ (Place.Yields smallPlan calmNetwork s) xs s.outcome.results ∧
        s.tellings.Perm s.outcome.results ∧
        (s.outcome.cancelled = false → xs = smallPlan.places) :=
  ⟨rfl, rfl, conclude_eq_ok_iff.2 ⟨rfl, rfl⟩,
    results_of_conclude smallPlan calmNetwork .silent cancelledSchedule rfl rfl
      (conclude_eq_ok_iff.2 ⟨rfl, rfl⟩)⟩

end StateCheck.Run
