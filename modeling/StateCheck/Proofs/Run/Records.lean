import Mathlib.Data.List.Sort
import StateCheck.Proofs.Assertion.Evaluation
import StateCheck.Proofs.Except
import StateCheck.Proofs.Run.History

/-!
The places of a plan, and the results that are recorded for them.
-/

namespace StateCheck.Run

/-! ### Places -/

/-- An assertion of a plan with its target, and the positions of the two. -/
structure Place where
  position : Nat × Nat
  target : Target
  assertion : Assertion

/-- The assertions of a plan in the order in which they are declared. -/
def Plan.places (p : Plan) : List Place :=
  p.targets.zipIdx.flatMap fun x =>
    x.1.assertions.zipIdx.map fun y => ⟨(x.2, y.2), x.1, y.1⟩

/-- The order of the declarations. -/
def Before (x y : Nat × Nat) : Prop := x.1 < y.1 ∨ x.1 = y.1 ∧ x.2 < y.2

instance : Std.Irrefl Before where
  irrefl x h := by
    unfold Before at h
    omega

instance : Std.Antisymm Before where
  antisymm x y h h' := by
    unfold Before at h h'
    omega

theorem mem_places {p : Plan} {x : Place} : x ∈ p.places ↔
    p.targets[x.position.1]? = some x.target ∧
      x.target.assertions[x.position.2]? = some x.assertion := by
  simp only [Plan.places, List.mem_flatMap, List.mem_map]
  constructor
  · rintro ⟨y, hy, z, hz, rfl⟩
    exact ⟨List.mem_zipIdx_iff_getElem?.1 hy, List.mem_zipIdx_iff_getElem?.1 hz⟩
  · rintro ⟨ht, ha⟩
    exact ⟨(x.target, x.position.1), List.mem_zipIdx_iff_getElem?.2 ht,
      (x.assertion, x.position.2), List.mem_zipIdx_iff_getElem?.2 ha, rfl⟩

theorem pairwise_zipIdx {α : Type} (xs : List α) :
    xs.zipIdx.Pairwise fun x y => x.2 < y.2 := by
  have h : (xs.zipIdx.map Prod.snd).Pairwise (· < ·) := by
    rw [List.zipIdx_map_snd]
    exact List.pairwise_lt_range'
  exact List.pairwise_map.1 h

theorem pairwise_places (p : Plan) :
    (p.places.map Place.position).Pairwise Before := by
  rw [List.pairwise_map, Plan.places, List.pairwise_flatMap]
  constructor
  · intro x hx
    exact List.pairwise_map.2 ((pairwise_zipIdx _).imp fun h => .inr ⟨rfl, h⟩)
  · refine (pairwise_zipIdx _).imp fun h x hx y hy => .inl ?_
    obtain ⟨a, -, rfl⟩ := List.mem_map.1 hx
    obtain ⟨b, -, rfl⟩ := List.mem_map.1 hy
    exact h

theorem position_inj {p : Plan} {x y : Place} (hx : x ∈ p.places) (hy : y ∈ p.places)
    (h : x.position = y.position) : x = y := by
  obtain ⟨⟨i, j⟩, t, a⟩ := x
  obtain ⟨⟨i', j'⟩, t', a'⟩ := y
  cases h
  obtain ⟨ht, ha⟩ := mem_places.1 hx
  obtain ⟨ht', ha'⟩ := mem_places.1 hy
  cases ht.symm.trans ht'
  cases ha.symm.trans ha'
  rfl

/-- The result at a place for the outcome of its request. -/
def Place.result (x : Place) (outcome : Except Fault Device.Answer) : Except Breakdown Result :=
  (judge x.target x.assertion outcome).map (stamp x.target)

theorem judge_assertion {t : Target} {a : Assertion} {outcome : Except Fault Device.Answer}
    {r : Result} (h : judge t a outcome = .ok r) : r.assertion = a := by
  cases outcome with
  | error e =>
    cases h
    rfl
  | ok answer =>
    obtain ⟨text, -, he⟩ := bind_eq_ok h
    exact (Assertion.carries_evaluate he).assertion

def Place.label (x : Place) : String × Assertion := (x.target.host, x.assertion)

/-- The host and the assertion that a result names. -/
def labelOf (r : Result) : String × Assertion := (r.target, r.assertion)

theorem Place.label_result {x : Place} {outcome : Except Fault Device.Answer} {r : Result}
    (h : x.result outcome = .ok r) : labelOf r = x.label := by
  obtain ⟨q, hq, rfl⟩ := map_eq_ok h
  rw [Place.label, ← judge_assertion hq]
  rfl

/-- At the place one request was made, over a connection to its target, and the result for what
came of it was recorded. Nothing else happened there. -/
def Place.Yields (p : Plan) (n : Network) (s : State) (x : Place) (r : Result) : Prop :=
  ∃ c limit timeout, c = connection p.settings limit x.target ∧
    s.history x.position.1 x.position.2 =
      exchange x.position.1 x.position.2 c x.assertion timeout ++
        [.recorded x.position.1 x.position.2 r] ∧
    x.result (n.fetch x.position.1 x.position.2 c x.assertion.path timeout).outcome = .ok r

/-! ### Records -/

def Record.position (r : Record) : Nat × Nat := (r.target, r.assertion)

def Event.record? : Event → Option Record
  | .recorded i j r => some ⟨i, j, r⟩
  | _ => none

def Event.told? : Event → Option Result
  | .told _ r => some r
  | _ => none

/-- The results that the listener was told, in the order of the calls. -/
def State.tellings (s : State) : List Result := s.events.filterMap Event.told?

variable {p : Plan} {n : Network} {listener : Listener} {s s' : State} {i j : Nat}

theorem records_eq (s : State) : s.records = s.events.filterMap Event.record? := by
  unfold State.records
  congr 1

theorem mem_records {r : Record} :
    r ∈ s.records ↔ .recorded r.target r.assertion r.result ∈ s.events := by
  rw [records_eq, List.mem_filterMap]
  constructor
  · rintro ⟨e, he, hr⟩
    cases e with
    | recorded i j q =>
      cases hr
      exact he
    | _ => cases hr
  · intro h
    exact ⟨_, h, rfl⟩

theorem filter_records (s : State) (i j : Nat) :
    s.records.filter (fun r => r.position == (i, j)) =
      (s.history i j).filterMap Event.record? := by
  rw [records_eq, State.history, historyOf, List.filter_filterMap, List.filterMap_filter]
  congr 1
  funext e
  cases e with
  | recorded i' j' r =>
    simp [Event.record?, Event.place?, Record.position, Option.filter]
  | _ => simp [Event.record?, Option.filter]

theorem Course.length_records {t : Target} {a : Assertion} {c : Device.Connection} {task : Task}
    (h : Course n listener s i j t a c task) :
    ((s.history i j).filterMap Event.record?).length ≤ 1 := by
  cases h with
  | recorded h =>
    rw [h]
    exact Nat.le_refl 1
  | waiting h | ready h | asking h | answered h | judged h | skipped h | brokenOff h =>
    rw [h]
    exact Nat.zero_le 1

theorem Sound.visited {t : Target} (hs : Sound p n listener s) (ht : p.targets[i]? = some t) :
    ∃ v, s.visits[i]? = some v ∧ Visited p n listener s i t v := by
  have hlt : i < s.visits.length := hs.length ▸ (List.getElem?_eq_some_iff.1 ht).1
  have hv : s.visits[i]? = some s.visits[i] := List.getElem?_eq_getElem hlt
  exact ⟨_, hv, hs.visits i t _ ht hv⟩

theorem Session.course {t : Target} {a : Assertion} {c : Device.Connection} {tasks : List Task}
    (h : Session p n listener s i t c tasks) (ha : t.assertions[j]? = some a) :
    ∃ task, tasks[j]? = some task ∧ Course n listener s i j t a c task := by
  have hlt : j < tasks.length := h.length ▸ (List.getElem?_eq_some_iff.1 ha).1
  have hj : tasks[j]? = some tasks[j] := List.getElem?_eq_getElem hlt
  exact ⟨_, hj, h.courses j a _ ha hj⟩

/-- Nothing happens at a place before its session. -/
theorem Sound.session {e : Event} (hs : Sound p n listener s) (he : e ∈ s.history i j) :
    ∃ x c tasks, x ∈ p.places ∧ x.position = (i, j) ∧
      Session p n listener s i x.target c tasks := by
  obtain ⟨hm, hp⟩ := List.mem_filter.1 he
  obtain ⟨t, ht, hj⟩ := hs.places e hm i j (by simpa using hp)
  have hx : ⟨(i, j), t, t.assertions[j]⟩ ∈ p.places :=
    mem_places.2 ⟨ht, List.getElem?_eq_getElem hj⟩
  obtain ⟨v, -, hv⟩ := hs.visited ht
  cases hv with
  | visiting h => exact ⟨_, _, _, hx, rfl, h⟩
  | closed h => exact ⟨_, _, _, hx, rfl, h⟩
  | waiting h | admitted h | skipped h | refused h =>
    rw [h j] at he
    cases he

/-- At most one result is recorded at a place. -/
theorem Sound.length_records (hs : Sound p n listener s) (i j : Nat) :
    ((s.history i j).filterMap Event.record?).length ≤ 1 := by
  by_cases hh : s.history i j = []
  · rw [hh]
    exact Nat.zero_le 1
  obtain ⟨e, he⟩ := List.exists_mem_of_ne_nil _ hh
  obtain ⟨x, c, tasks, hx, hp, h⟩ := hs.session he
  have ha := (mem_places.1 hx).2
  rw [hp] at ha
  obtain ⟨task, -, hcourse⟩ := h.course ha
  exact hcourse.length_records

theorem Sound.nodup_records (hs : Sound p n listener s) :
    (s.records.map Record.position).Nodup := by
  refine List.nodup_iff_count_le_one.2 fun x => ?_
  rw [List.count, List.countP_map, List.countP_eq_length_filter]
  have h := hs.length_records x.1 x.2
  rwa [← filter_records] at h

/-- A recorded result stems from the one request at its place. -/
theorem Sound.yields {r : Result} (hs : Sound p n listener s) (hr : .recorded i j r ∈ s.events) :
    ∃ x, x ∈ p.places ∧ x.position = (i, j) ∧ x.Yields p n s r := by
  have he : .recorded i j r ∈ s.history i j := List.mem_filter.2 ⟨hr, by simp [Event.place?]⟩
  obtain ⟨⟨⟨i', j'⟩, t, a⟩, c, tasks, hx, hp, h⟩ := hs.session he
  cases hp
  obtain ⟨task, -, hcourse⟩ := h.course (mem_places.1 hx).2
  refine ⟨_, hx, rfl, ?_⟩
  obtain ⟨limit, hc⟩ := h.limit
  cases hcourse with
  | recorded hh hj =>
    rw [hh] at he
    obtain rfl : r = stamp t _ := by simpa [exchange] using he
    exact ⟨c, limit, _, hc, hh, by simp [Place.result, hj, Except.map]⟩
  | waiting hh | ready hh | asking hh | answered hh | judged hh | skipped hh | brokenOff hh =>
    rw [hh] at he
    simp [exchange] at he

/-! ### Tellings -/

theorem TaskStep.told {t : Target} {a : Assertion} {c : Device.Connection} {tasks : List Task}
    {task task' : Task} {e : Effect}
    (h : TaskStep p n listener s i j t a c tasks task task' e) :
    e.events.filterMap Event.told? = (e.events.filterMap Event.record?).map Record.result := by
  cases h with
  | replied hr => split <;> rfl
  | _ => rfl

theorem VisitStep.told {v v' : Visit} {e : Effect} (h : VisitStep p n listener s i v v' e) :
    e.events.filterMap Event.told? = (e.events.filterMap Event.record?).map Record.result := by
  cases h with
  | task ht ha hj hstep => exact hstep.told
  | _ => rfl

/-- The listener is told exactly what is recorded. -/
theorem tellings_follow (p : Plan) (n : Network) (listener : Listener) (schedule : List Move) :
    (follow p n listener schedule (.start p)).tellings =
      (follow p n listener schedule (.start p)).records.map Record.result := by
  refine follow_induction (P := fun s => s.tellings = s.records.map Record.result) ?_ schedule rfl
  intro s s' hs h
  cases h with
  | work h =>
    cases h with
    | still => exact hs
    | visit hv hstep =>
      rw [records_eq] at hs ⊢
      simp only [State.tellings, State.after, List.filterMap_append, List.map_append] at hs ⊢
      rw [hs, hstep.told]
  | cancel | pass => exact hs

end StateCheck.Run
