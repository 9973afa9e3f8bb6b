import Mathlib.Data.List.Basic
import StateCheck.Proofs.Run.Change

/-!
The invariant of runs: how far every visit and every evaluation is can be told from the events.
-/

namespace StateCheck.Run

/-- The place of the evaluation that an event belongs to. -/
def Event.place? : Event → Option (Nat × Nat)
  | .asked i j .. | .replied i j | .recorded i j _ => some (i, j)
  | _ => none

def historyOf (i j : Nat) (events : List Event) : List Event :=
  events.filter fun e => e.place? == some (i, j)

/-- The events of the evaluation at a place. -/
def State.history (s : State) (i j : Nat) : List Event := historyOf i j s.events

/-- The events of a request that was answered. -/
def exchange (i j : Nat) (c : Device.Connection) (a : Assertion) (timeout : Binary64) :
    List Event := [.asked i j c a.path timeout, .replied i j]

section

variable (p : Plan) (n : Network) (listener : Listener) (s : State) (i : Nat)

/-- What has happened at a place if its evaluation is as far as the task says. -/
inductive Course (j : Nat) (t : Target) (a : Assertion) (c : Device.Connection) : Task → Prop
  | waiting (h : s.history i j = []) : Course j t a c .waiting
  | ready (h : s.history i j = []) : Course j t a c .ready
  | asking {timeout : Binary64} (h : s.history i j = [.asked i j c a.path timeout]) :
      Course j t a c (.asking timeout)
  | answered {timeout : Binary64} {outcome : Except Fault Device.Answer}
      (h : s.history i j = exchange i j c a timeout)
      (ho : (n.fetch i j c a.path timeout).outcome = outcome) : Course j t a c (.answered outcome)
  | judged {timeout : Binary64} {r : Result} (h : s.history i j = exchange i j c a timeout)
      (hj : judge t a (n.fetch i j c a.path timeout).outcome = .ok r) : Course j t a c (.judged r)
  | skipped (h : s.history i j = []) (hc : s.cutShort = true) : Course j t a c (.done none)
  | brokenOff {timeout : Binary64} {b : Breakdown} (h : s.history i j = exchange i j c a timeout)
      (hj : judge t a (n.fetch i j c a.path timeout).outcome = .error b) :
      Course j t a c (.done (some (.breakdown b)))
  | recorded {timeout : Binary64} {r : Result} {count : Nat} {fault : Option Fault}
      (h : s.history i j = exchange i j c a timeout ++ [.recorded i j (stamp t r)])
      (hj : judge t a (n.fetch i j c a.path timeout).outcome = .ok r)
      (ht : .told count (stamp t r) ∈ s.events)
      (hf : fault = (listener count (stamp t r)).fault) : Course j t a c (.done fault)

/-- A session with a target and the tasks for its assertions. -/
structure Session (t : Target) (c : Device.Connection) (tasks : List Task) : Prop where
  limit : ∃ limit, c = connection p.settings limit t
  length : tasks.length = t.assertions.length
  courses : ∀ j a task, t.assertions[j]? = some a → tasks[j]? = some task →
    Course n listener s i j t a c task

/-- What has happened on a target if its visit is as far as given. -/
inductive Visited (t : Target) : Visit → Prop
  | waiting (h : ∀ j, s.history i j = []) : Visited t .waiting
  | admitted (h : ∀ j, s.history i j = []) : Visited t .admitted
  | visiting {c : Device.Connection} {tasks : List Task}
      (h : Session p n listener s i t c tasks) : Visited t (.visiting c tasks)
  | skipped (h : ∀ j, s.history i j = []) (hc : s.cutShort = true) : Visited t .done
  | refused {e : Fault} (h : ∀ j, s.history i j = []) (hf : .failed i e ∈ s.events) :
      Visited t .done
  | closed {c : Device.Connection} {tasks : List Task} (h : Session p n listener s i t c tasks)
      (hover : tasks.all Task.isOver = true)
      (hf : ∀ e, (n.close i c).or (tasks.findSome? Task.fault?) = some e →
        .failed i e ∈ s.events) : Visited t .done

/-- Why the visit to a target ended with a fault. -/
inductive Cause : Fault → Prop
  | refused {c : Device.Connection} {e e' : Fault} (h : .refused i c e ∈ s.events) : Cause e'
  | closing {c : Device.Connection} {e : Fault} (h : .closed i c ∈ s.events)
      (hn : n.close i c = some e) : Cause e
  | brokenOff {j : Nat} {t : Target} {a : Assertion} {c : Device.Connection} {timeout : Binary64}
      {b : Breakdown} (ht : p.targets[i]? = some t) (ha : t.assertions[j]? = some a)
      (h : .asked i j c a.path timeout ∈ s.events)
      (hj : judge t a (n.fetch i j c a.path timeout).outcome = .error b) : Cause (.breakdown b)
  | listener {count : Nat} {r : Result} {e : Fault} (h : .told count r ∈ s.events)
      (hl : (listener count r).fault = some e) : Cause e

end

/-- The invariant of the runs of a plan. -/
structure Sound (p : Plan) (n : Network) (listener : Listener) (s : State) : Prop where
  length : s.visits.length = p.targets.length
  places : ∀ e ∈ s.events, ∀ i j, e.place? = some (i, j) →
    ∃ t, p.targets[i]? = some t ∧ j < t.assertions.length
  visits : ∀ i t v, p.targets[i]? = some t → s.visits[i]? = some v →
    Visited p n listener s i t v
  failures : ∀ i e, .failed i e ∈ s.events → Cause p n listener s i e

variable {p : Plan} {n : Network} {listener : Listener} {s s' : State} {i j : Nat} {t : Target}
  {a : Assertion} {c : Device.Connection} {tasks : List Task}

/-! ### Frames -/

/-- The second state has the events of the first one, and no others at the place. -/
structure Frame (s s' : State) (i j : Nat) : Prop where
  history : s'.history i j = s.history i j
  cutShort : s.cutShort = true → s'.cutShort = true
  events : s.events ⊆ s'.events

theorem Course.frame {task : Task} (h : Course n listener s i j t a c task)
    (hs : Frame s s' i j) : Course n listener s' i j t a c task := by
  cases h with
  | waiting h => exact .waiting (hs.history.trans h)
  | ready h => exact .ready (hs.history.trans h)
  | asking h => exact .asking (hs.history.trans h)
  | answered h ho => exact .answered (hs.history.trans h) ho
  | judged h hj => exact .judged (hs.history.trans h) hj
  | skipped h hc => exact .skipped (hs.history.trans h) (hs.cutShort hc)
  | brokenOff h hj => exact .brokenOff (hs.history.trans h) hj
  | recorded h hj ht hf => exact .recorded (hs.history.trans h) hj (hs.events ht) hf

theorem Session.frame (h : Session p n listener s i t c tasks) (hs : ∀ j, Frame s s' i j) :
    Session p n listener s' i t c tasks :=
  ⟨h.limit, h.length, fun j a task ha hj => (h.courses j a task ha hj).frame (hs j)⟩

theorem Visited.frame {v : Visit} (h : Visited p n listener s i t v)
    (hs : ∀ j, Frame s s' i j) : Visited p n listener s' i t v := by
  cases h with
  | waiting h => exact .waiting fun j => (hs j).history.trans (h j)
  | admitted h => exact .admitted fun j => (hs j).history.trans (h j)
  | visiting h => exact .visiting (h.frame hs)
  | skipped h hc => exact .skipped (fun j => (hs j).history.trans (h j)) ((hs 0).cutShort hc)
  | refused h hf => exact .refused (fun j => (hs j).history.trans (h j)) ((hs 0).events hf)
  | closed h hover hf => exact .closed (h.frame hs) hover fun e he => (hs 0).events (hf e he)

theorem Cause.mono {e : Fault} (h : Cause p n listener s i e) (hs : s.events ⊆ s'.events) :
    Cause p n listener s' i e := by
  cases h with
  | refused h => exact .refused (hs h)
  | closing h hn => exact .closing (hs h) hn
  | brokenOff ht ha h hj => exact .brokenOff ht ha (hs h) hj
  | listener h hl => exact .listener (hs h) hl

/-! ### Steps -/

theorem history_after (k : Nat) (v : Visit) (e : Effect) :
    (s.after k v e).history i j = s.history i j ++ historyOf i j e.events := by
  simp [State.history, historyOf, State.after]

theorem frame_after {e : Effect} (he : historyOf i j e.events = []) (k : Nat) (v : Visit) :
    Frame s (s.after k v e) i j where
  history := by rw [history_after, he, List.append_nil]
  cutShort hc := by simp [State.after, hc]
  events := List.subset_append_left s.events e.events

theorem TaskStep.history_ne {task task' : Task} {e : Effect} {i' j' : Nat}
    (h : TaskStep p n listener s i j t a c tasks task task' e) (hne : (i, j) ≠ (i', j')) :
    historyOf i' j' e.events = [] := by
  cases h with
  | replied hr => split <;> simp [historyOf, Event.place?, hne]
  | _ => simp [historyOf, Event.place?, hne]

theorem VisitStep.history_ne {v v' : Visit} {e : Effect} {i' : Nat}
    (h : VisitStep p n listener s i v v' e) (hne : i ≠ i') (j : Nat) :
    historyOf i' j e.events = [] := by
  cases h with
  | task ht ha hj hstep => exact hstep.history_ne fun h => hne (congrArg Prod.fst h)
  | _ => rfl

theorem TaskStep.course {task task' : Task} {e : Effect} (v : Visit)
    (h : TaskStep p n listener s i j t a c tasks task task' e)
    (hc : Course n listener s i j t a c task) :
    Course n listener (s.after i v e) i j t a c task' := by
  -- The task before the step leaves one case for what has happened so far.
  cases h with
  | leftOut hfree hs =>
    cases hc with
    | waiting hh => exact .skipped ((frame_after rfl i v).history.trans hh) (by simp [State.after])
  | begun hfree hs =>
    cases hc with
    | waiting hh => exact .ready ((frame_after rfl i v).history.trans hh)
  | asked =>
    cases hc with
    | ready hh =>
      exact .asking ((history_after i v _).trans (by simp [hh, historyOf, Event.place?]))
  | @replied timeout reply hr =>
    cases hc with
    | asking hh =>
      refine .answered ((history_after i v _).trans ?_) (congrArg Device.Reply.outcome hr)
      cases reply.interrupts <;> simp [hh, historyOf, Event.place?, exchange]
  | judged hj =>
    cases hc with
    | answered hh ho => exact .judged ((frame_after rfl i v).history.trans hh) (by rw [ho, hj])
  | brokenOff hj =>
    cases hc with
    | answered hh ho => exact .brokenOff ((frame_after rfl i v).history.trans hh) (by rw [ho, hj])
  | @recorded r reaction hl =>
    cases hc with
    | judged hh hj =>
      have htold : .told (s.recordedCount + 1) (stamp t r) ∈ (s.after i v
          ⟨[.recorded i j (stamp t r), .told (s.recordedCount + 1) (stamp t r)], false,
            reaction.cancels, none⟩).events := by simp [State.after]
      exact .recorded ((history_after i v _).trans (by simp [hh, historyOf, Event.place?])) hj
        htold (by rw [hl])

theorem Session.task {task task' : Task} {e : Effect} (v : Visit)
    (h : Session p n listener s i t c tasks) (ha : t.assertions[j]? = some a)
    (hj : tasks[j]? = some task) (hstep : TaskStep p n listener s i j t a c tasks task task' e) :
    Session p n listener (s.after i v e) i t c (tasks.set j task') where
  limit := h.limit
  length := by rw [List.length_set, h.length]
  courses k b task'' hb hk := by
    -- The events of the step belong to the place of its task.
    by_cases hjk : j = k
    · subst k
      obtain rfl : a = b := Option.some.inj (ha.symm.trans hb)
      have hlt : j < tasks.length := (List.getElem?_eq_some_iff.1 hj).1
      obtain rfl : task' = task'' := by simpa [List.getElem?_set, hlt] using hk
      exact hstep.course v (h.courses j a task ha hj)
    · rw [List.getElem?_set_ne hjk] at hk
      exact (h.courses k b task'' hb hk).frame
        (frame_after (hstep.history_ne fun h => hjk (congrArg Prod.snd h)) i v)

theorem Session.start {limit : Binary64} (hc : c = connection p.settings limit t)
    (h : ∀ j, s.history i j = []) :
    Session p n listener s i t c (t.assertions.map fun _ => .waiting) where
  limit := ⟨limit, hc⟩
  length := List.length_map _
  courses j a task ha hj := by
    obtain rfl : .waiting = task := by
      rw [List.getElem?_map, ha] at hj
      exact Option.some.inj hj
    exact .waiting (h j)

theorem VisitStep.visited {v v' : Visit} {e : Effect} (h : VisitStep p n listener s i v v' e)
    (ht : p.targets[i]? = some t) (hv : Visited p n listener s i t v) :
    Visited p n listener (s.after i v' e) i t v' := by
  cases h with
  | leftOut hfree hs =>
    cases hv with
    | waiting hh =>
      exact .skipped (fun j => (frame_after rfl i _).history.trans (hh j)) (by simp [State.after])
  | admitted hfree hs =>
    cases hv with
    | waiting hh => exact .admitted fun j => (frame_after rfl i _).history.trans (hh j)
  | @refused _ c e ht' hc hn =>
    cases hv with
    | admitted hh =>
      have hf : .failed i (refusal c e) ∈ (s.after i .done
          ⟨[.refused i c e, .failed i (refusal c e)], false, false, none⟩).events := by
        simp [State.after]
      exact .refused (fun j => (frame_after rfl i _).history.trans (hh j)) hf
  | opened ht' hc hn =>
    obtain rfl := Option.some.inj (ht.symm.trans ht')
    cases hv with
    | admitted hh =>
      exact .visiting (.start hc fun j => (frame_after rfl i _).history.trans (hh j))
  | closed hover hf =>
    cases hv with
    | visiting hsession =>
      exact .closed (hsession.frame fun j => frame_after rfl i _) hover (by simp [hf])
  | failed hover hf =>
    cases hv with
    | visiting hsession =>
      refine .closed (hsession.frame fun j => frame_after rfl i _) hover fun e' he' => ?_
      obtain rfl := Option.some.inj (hf.symm.trans he')
      simp [State.after]
  | task ht' ha hj hstep =>
    obtain rfl := Option.some.inj (ht.symm.trans ht')
    cases hv with
    | visiting hsession => exact .visiting (hsession.task _ ha hj hstep)

theorem mem_history {e : Event} :
    e ∈ s.history i j ↔ e ∈ s.events ∧ e.place? = some (i, j) := by
  rw [State.history, historyOf, List.mem_filter, beq_iff_eq]

theorem mem_events_of_history {e : Event} (h : e ∈ s.history i j) : e ∈ s.events :=
  (List.mem_filter.1 h).1

theorem Sound.target {v : Visit} (hs : Sound p n listener s) (hv : s.visits[i]? = some v) :
    ∃ t, p.targets[i]? = some t ∧ Visited p n listener s i t v := by
  have hlt : i < p.targets.length := hs.length ▸ (List.getElem?_eq_some_iff.1 hv).1
  have ht : p.targets[i]? = some p.targets[i] := List.getElem?_eq_getElem hlt
  exact ⟨_, ht, hs.visits i _ v ht hv⟩

theorem Session.cause {e : Fault} (h : Session p n listener s i t c tasks)
    (ht : p.targets[i]? = some t) (hf : tasks.findSome? Task.fault? = some e) :
    Cause p n listener s i e := by
  obtain ⟨task, hm, he⟩ := List.exists_of_findSome?_eq_some hf
  obtain ⟨j, hj⟩ := List.mem_iff_getElem?.1 hm
  have hlt : j < t.assertions.length := h.length ▸ (List.getElem?_eq_some_iff.1 hj).1
  have ha : t.assertions[j]? = some t.assertions[j] := List.getElem?_eq_getElem hlt
  cases h.courses j _ task ha hj with
  | brokenOff hh hb =>
    cases he
    exact .brokenOff ht ha (mem_events_of_history (by rw [hh]; simp [exchange])) hb
  | recorded hh hr htold hl =>
    obtain rfl : _ = some e := he
    exact .listener htold hl.symm
  | _ => cases he

theorem VisitStep.place {v v' : Visit} {e : Effect} {ev : Event} {i' : Nat}
    (h : VisitStep p n listener s i v v' e) (hev : ev ∈ e.events)
    (hp : ev.place? = some (i', j)) : ∃ t, p.targets[i']? = some t ∧ j < t.assertions.length := by
  have hi : i = i' := by
    by_contra hne
    have hm : ev ∈ historyOf i' j e.events := List.mem_filter.2 ⟨hev, by simp [hp]⟩
    rw [h.history_ne hne] at hm
    cases hm
  subst i'
  cases h with
  | @task k t a c tasks task task' e ht ha hj hstep =>
    have hk : k = j := by
      by_contra hne
      have hm : ev ∈ historyOf i j e.events := List.mem_filter.2 ⟨hev, by simp [hp]⟩
      rw [hstep.history_ne fun h => hne (congrArg Prod.snd h)] at hm
      cases hm
    subst k
    exact ⟨t, ht, (List.getElem?_eq_some_iff.1 ha).1⟩
  | leftOut | admitted => cases hev
  | refused | failed =>
    rcases List.mem_pair.1 hev with rfl | rfl <;> cases hp
  | opened | closed =>
    cases List.mem_singleton.1 hev
    cases hp

theorem VisitStep.cause {v v' : Visit} {e : Effect} {i' : Nat} {f : Fault}
    (h : VisitStep p n listener s i v v' e) (hs : Sound p n listener s)
    (hv : s.visits[i]? = some v) (hf : .failed i' f ∈ e.events) :
    Cause p n listener (s.after i v' e) i' f := by
  cases h with
  | refused ht hc hn =>
    rcases List.mem_pair.1 hf with hf | hf <;> cases hf
    exact .refused (List.mem_append_right _ (List.mem_cons_self ..))
  | @failed c tasks e hover he =>
    rcases List.mem_pair.1 hf with hf | hf <;> cases hf
    have hclosed : .closed i c ∈ (s.after i .done
        ⟨[.closed i c, .failed i f], false, false, none⟩).events := by simp [State.after]
    cases hn : n.close i c with
    | some f' =>
      rw [hn, Option.some_or] at he
      cases he
      exact .closing hclosed hn
    | none =>
      rw [hn, Option.none_or] at he
      obtain ⟨t, ht, hvisited⟩ := hs.target hv
      cases hvisited with
      | visiting hsession => exact (hsession.cause ht he).mono (List.subset_append_left _ _)
  | task ht ha hj hstep =>
    exfalso
    cases hstep with
    | replied hr => split at hf <;> simp at hf
    | _ => simp at hf
  | _ => simp at hf

theorem Sound.after {v v' : Visit} {e : Effect} (hs : Sound p n listener s)
    (hv : s.visits[i]? = some v) (h : VisitStep p n listener s i v v' e) :
    Sound p n listener (s.after i v' e) where
  length := (List.length_set).trans hs.length
  places ev hev i' j hp := by
    rcases List.mem_append.1 hev with hev | hev
    · exact hs.places ev hev i' j hp
    · exact h.place hev hp
  visits i' t w ht hw := by
    -- One visit moves on, and the events of its step belong to its own target.
    by_cases hi : i = i'
    · subst i'
      have hlt : i < s.visits.length := (List.getElem?_eq_some_iff.1 hv).1
      obtain rfl : v' = w := by simpa [State.after, List.getElem?_set, hlt] using hw
      exact h.visited ht (hs.visits i t v ht hv)
    · have hw' : s.visits[i']? = some w := by
        rwa [State.after, List.getElem?_set_ne hi] at hw
      exact (hs.visits i' t w ht hw').frame fun j => frame_after (h.history_ne hi j) i v'
  failures i' f hf := by
    rcases List.mem_append.1 hf with hf | hf
    · exact (hs.failures i' f hf).mono (List.subset_append_left _ _)
    · exact h.cause hs hv hf

theorem Sound.change (hs : Sound p n listener s) (h : Change p n listener s s') :
    Sound p n listener s' := by
  have hframe : ∀ s' : State, s'.visits = s.visits → s'.cutShort = s.cutShort →
      s'.events = s.events → Sound p n listener s' := by
    intro s' hv hc he
    have hf : ∀ i j, Frame s s' i j := fun i j =>
      ⟨by rw [State.history, he]; rfl, by rw [hc]; exact id, by rw [he]; exact List.Subset.refl _⟩
    refine ⟨by rw [hv]; exact hs.length, by rw [he]; exact hs.places, ?_, ?_⟩
    · intro i t v ht hv'
      rw [hv] at hv'
      exact (hs.visits i t v ht hv').frame (hf i)
    · intro i e hm
      rw [he] at hm
      exact (hs.failures i e hm).mono (by rw [he]; exact List.Subset.refl _)
  cases h with
  | work h =>
    cases h with
    | still => exact hs
    | visit hv hstep => exact hs.after hv hstep
  | cancel | pass => exact hframe _ rfl rfl rfl

theorem sound_start (p : Plan) (n : Network) (listener : Listener) :
    Sound p n listener (.start p) where
  length := List.length_map _
  places e he := by cases he
  visits i t v ht hv := by
    obtain rfl : .waiting = v := by
      rw [State.start, List.getElem?_map, ht] at hv
      exact Option.some.inj hv
    exact .waiting fun _ => rfl
  failures i e he := by cases he

/-- Every state of every run of a plan is sound. -/
theorem sound_follow (p : Plan) (n : Network) (listener : Listener) (schedule : List Move) :
    Sound p n listener (follow p n listener schedule (.start p)) :=
  follow_induction (fun _ _ hs h => hs.change h) schedule (sound_start p n listener)

end StateCheck.Run
