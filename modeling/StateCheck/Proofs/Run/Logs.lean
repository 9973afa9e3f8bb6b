import StateCheck.Proofs.Run.History

/-!
The events on each target of a run, in the order in which its visit makes them.
-/

namespace StateCheck.Run

/-! ### Logs -/

namespace Event

/-- The target that an event belongs to. -/
def target? : Event → Option Nat
  | opened i _ | refused i _ _ | closed i _ | failed i _ => some i
  | asked i .. | replied i _ | recorded i .. => some i
  | interrupted | told .. => none

/-- The events of evaluations over a session. -/
inductive Over (i : Nat) (c : Device.Connection) : Event → Prop
  | asked {j : Nat} {path : String} {timeout : Binary64} : Over i c (.asked i j c path timeout)
  | replied {j : Nat} : Over i c (.replied i j)
  | recorded {j : Nat} {r : Result} : Over i c (.recorded i j r)

end Event

def logOf (i : Nat) (events : List Event) : List Event :=
  events.filter fun e => e.target? == some i

/-- The events on a target. -/
def State.logged (s : State) (i : Nat) : List Event := logOf i s.events

def Plan.Reaches (p : Plan) (i : Nat) (c : Device.Connection) : Prop :=
  ∃ t limit, p.targets[i]? = some t ∧ c = connection p.settings limit t

section

variable (p : Plan) (n : Network) (listener : Listener) (s : State) (i : Nat)

/-- The events on a target if its visit is as far as given. -/
inductive Logged : Visit → Prop
  | waiting (h : s.logged i = []) : Logged .waiting
  | admitted (h : s.logged i = []) : Logged .admitted
  | visiting {c : Device.Connection} {tasks : List Task} {talk : List Event}
      (h : s.logged i = .opened i c :: talk) (htalk : ∀ e ∈ talk, e.Over i c)
      (hc : p.Reaches i c) (hn : n.connect i c = none) : Logged (.visiting c tasks)
  | skipped (h : s.logged i = []) (hcut : s.cutShort = true) : Logged .done
  | refused {c : Device.Connection} {e : Fault}
      (h : s.logged i = [.refused i c e, .failed i (refusal c e)])
      (hc : p.Reaches i c) (hn : n.connect i c = some e) : Logged .done
  | left {t : Target} {c : Device.Connection} {tasks : List Task} {talk : List Event}
      {fault : Option Fault}
      (h : s.logged i = .opened i c :: (talk ++ .closed i c :: (fault.map (.failed i)).toList))
      (htalk : ∀ e ∈ talk, e.Over i c) (hn : n.connect i c = none)
      (ht : p.targets[i]? = some t) (hsession : Session p n listener s i t c tasks)
      (hover : tasks.all Task.isOver = true)
      (hf : (n.close i c).or (tasks.findSome? Task.fault?) = fault) : Logged .done

end

/-- The events on each target are those of its visit, and there are no others. -/
structure Logbook (p : Plan) (n : Network) (listener : Listener) (s : State) : Prop where
  targets : ∀ e ∈ s.events, ∀ i, e.target? = some i → i < s.visits.length
  visits : ∀ i v, s.visits[i]? = some v → Logged p n listener s i v

variable {p : Plan} {n : Network} {listener : Listener} {s s' : State} {i j : Nat} {t : Target}
  {a : Assertion} {c : Device.Connection} {tasks : List Task}

theorem mem_logOf {e : Event} {events : List Event} :
    e ∈ logOf i events ↔ e ∈ events ∧ e.target? = some i := by
  rw [logOf, List.mem_filter, beq_iff_eq]

theorem historyOf_logOf (i j : Nat) (events : List Event) :
    historyOf i j (logOf i events) = historyOf i j events := by
  rw [historyOf, logOf, List.filter_filter, historyOf]
  congr 1
  funext e
  cases e with
  | asked i' j' | replied i' j' | recorded i' j' =>
    by_cases hi : i' = i <;> simp [Event.place?, Event.target?, hi]
  | _ => rfl

theorem logged_after (k : Nat) (v : Visit) (e : Effect) :
    (s.after k v e).logged i = s.logged i ++ logOf i e.events := by
  simp [State.logged, logOf, State.after]

theorem Logged.frame {v : Visit} (h : Logged p n listener s i v)
    (hlog : s'.logged i = s.logged i) (hs : ∀ j, Frame s s' i j) :
    Logged p n listener s' i v := by
  cases h with
  | waiting h => exact .waiting (hlog.trans h)
  | admitted h => exact .admitted (hlog.trans h)
  | visiting h htalk hc hn => exact .visiting (hlog.trans h) htalk hc hn
  | skipped h hcut => exact .skipped (hlog.trans h) ((hs 0).cutShort hcut)
  | refused h hc hn => exact .refused (hlog.trans h) hc hn
  | left h htalk hn ht hsession hover hf =>
    exact .left (hlog.trans h) htalk hn ht (hsession.frame hs) hover hf

theorem TaskStep.over {task task' : Task} {e : Effect} {ev : Event}
    (h : TaskStep p n listener s i j t a c tasks task task' e) (hev : ev ∈ e.events)
    (ht : ev.target?.isSome = true) : ev.Over i c := by
  cases h with
  | asked =>
    obtain rfl := List.mem_singleton.1 hev
    exact .asked
  | @replied timeout reply hr =>
    rcases List.mem_cons.1 hev with rfl | hev
    · exact .replied
    · cases hi : reply.interrupts with
      | true =>
        obtain rfl : ev = .interrupted := by simpa [hi] using hev
        cases ht
      | false => simp [hi] at hev
  | recorded hl =>
    rcases List.mem_pair.1 hev with rfl | rfl
    · exact .recorded
    · cases ht
  | leftOut | begun | judged | brokenOff => cases hev

theorem Event.Over.target {ev : Event} (h : ev.Over i c) : ev.target? = some i := by
  cases h <;> rfl

/-- A step of a visit makes events on its own target alone. -/
theorem VisitStep.target {v v' : Visit} {e : Effect} {ev : Event} {k : Nat}
    (h : VisitStep p n listener s i v v' e) (hev : ev ∈ e.events) (hk : ev.target? = some k) :
    k = i := by
  have hi : ev.target? = some i := by
    cases h with
    | leftOut | admitted => cases hev
    | refused | failed => rcases List.mem_pair.1 hev with rfl | rfl <;> rfl
    | opened | closed =>
      obtain rfl := List.mem_singleton.1 hev
      rfl
    | task ht ha hj hstep => exact (hstep.over hev (by rw [hk]; rfl)).target
  exact Option.some.inj (hk.symm.trans hi)

theorem VisitStep.logOf_ne {v v' : Visit} {e : Effect} {k : Nat}
    (h : VisitStep p n listener s i v v' e) (hne : k ≠ i) : logOf k e.events = [] := by
  refine List.eq_nil_iff_forall_not_mem.2 fun ev hev => ?_
  obtain ⟨hm, hk⟩ := mem_logOf.1 hev
  exact hne (h.target hm hk)

theorem VisitStep.logged {v v' : Visit} {e : Effect} (h : VisitStep p n listener s i v v' e)
    (ht : p.targets[i]? = some t) (hv : Visited p n listener s i t v)
    (hl : Logged p n listener s i v) : Logged p n listener (s.after i v' e) i v' := by
  have hlog {l : List Event} (hs : s.logged i = l) :
      (s.after i v' e).logged i = l ++ logOf i e.events := by rw [logged_after, hs]
  cases h with
  | leftOut hfree hs =>
    cases hl with
    | waiting hl => exact .skipped (hlog hl) (by simp [State.after])
  | admitted hfree hs =>
    cases hl with
    | waiting hl => exact .admitted (hlog hl)
  | refused ht hc hn =>
    cases hl with
    | admitted hl => exact .refused (by simp [hlog hl, logOf, Event.target?]) ⟨_, _, ht, hc⟩ hn
  | @opened t c ht hc hn =>
    cases hl with
    | admitted hl =>
      have hopened := (hlog hl).trans
        (show [] ++ logOf i [.opened i c] = [.opened i c] by simp [logOf, Event.target?])
      exact .visiting hopened (List.forall_mem_nil _) ⟨_, _, ht, hc⟩ hn
  | closed hover hf =>
    cases hl with
    | visiting hl htalk hc hn =>
      cases hv with
      | visiting hsession =>
        refine .left ?_ htalk hn ht (hsession.frame fun j => frame_after rfl i _) hover hf
        simp [hlog hl, logOf, Event.target?]
  | failed hover hf =>
    cases hl with
    | visiting hl htalk hc hn =>
      cases hv with
      | visiting hsession =>
        refine .left ?_ htalk hn ht (hsession.frame fun j => frame_after rfl i _) hover hf
        simp [hlog hl, logOf, Event.target?]
  | task ht ha hj hstep =>
    cases hl with
    | visiting hl htalk hc hn =>
      refine .visiting (hlog hl) (fun ev hev => ?_) hc hn
      rcases List.mem_append.1 hev with hev | hev
      · exact htalk ev hev
      · obtain ⟨hm, hi⟩ := mem_logOf.1 hev
        exact hstep.over hm (by rw [hi]; rfl)

theorem Logbook.after {v v' : Visit} {e : Effect} (hs : Logbook p n listener s)
    (hsound : Sound p n listener s) (hv : s.visits[i]? = some v)
    (h : VisitStep p n listener s i v v' e) : Logbook p n listener (s.after i v' e) where
  targets ev hev k hk := by
    have hlen : (s.after i v' e).visits.length = s.visits.length := List.length_set
    rw [hlen]
    rcases List.mem_append.1 hev with hev | hev
    · exact hs.targets ev hev k hk
    · rw [h.target hev hk]
      exact (List.getElem?_eq_some_iff.1 hv).1
  visits k w hw := by
    have hlt : i < s.visits.length := (List.getElem?_eq_some_iff.1 hv).1
    by_cases hik : i = k
    · subst k
      obtain rfl : v' = w := by simpa [State.after, List.getElem?_set, hlt] using hw
      obtain ⟨t, ht, hvisited⟩ := hsound.target hv
      exact h.logged ht hvisited (hs.visits i v hv)
    · have hw' : s.visits[k]? = some w := by rwa [State.after, List.getElem?_set_ne hik] at hw
      refine (hs.visits k w hw').frame ?_ fun j => frame_after (h.history_ne hik j) i v'
      rw [logged_after, h.logOf_ne (Ne.symm hik), List.append_nil]

theorem logbook_start (p : Plan) (n : Network) (listener : Listener) :
    Logbook p n listener (.start p) where
  targets e he := by cases he
  visits i v hv := by
    obtain ⟨t, -, rfl⟩ := List.mem_map.1 (List.mem_of_getElem? hv)
    exact .waiting rfl

theorem logbook_follow (p : Plan) (n : Network) (listener : Listener) (schedule : List Move) :
    Logbook p n listener (follow p n listener schedule (.start p)) := by
  -- What a visit leaves behind rests on how far its tasks were.
  have hstep : ∀ s s', Sound p n listener s ∧ Logbook p n listener s → Change p n listener s s' →
      Sound p n listener s' ∧ Logbook p n listener s' := by
    rintro s s' ⟨hsound, hs⟩ h
    refine ⟨hsound.change h, ?_⟩
    cases h with
    | work h =>
      cases h with
      | still => exact hs
      | visit hv hstep => exact hs.after hsound hv hstep
    | cancel | pass =>
      exact ⟨hs.targets, fun i v hv => (hs.visits i v hv).frame rfl fun j =>
        ⟨rfl, id, List.Subset.refl _⟩⟩
  exact (follow_induction hstep schedule
    ⟨sound_start p n listener, logbook_start p n listener⟩).2

/-! ### Sessions -/

/-- The event is an attempt to open a session over the connection. -/
inductive Event.Tries (i : Nat) (c : Device.Connection) : Event → Prop
  | opened : Tries i c (.opened i c)
  | refused {e : Fault} : Tries i c (.refused i c e)

theorem Event.Tries.not_over {ev : Event} {c' : Device.Connection} (h : ev.Tries i c) :
    ¬ev.Over i c' := by
  intro hover
  cases h <;> cases hover

theorem Logged.reaches {v : Visit} {ev : Event} (h : Logged p n listener s i v)
    (hm : ev ∈ s.logged i) (hev : ev.Tries i c) : p.Reaches i c := by
  cases h with
  | waiting h | admitted h | skipped h =>
    rw [h] at hm
    cases hm
  | visiting h htalk hc =>
    rw [h] at hm
    rcases List.mem_cons.1 hm with rfl | hm
    · cases hev
      exact hc
    · exact absurd (htalk ev hm) hev.not_over
  | refused h hc =>
    rw [h] at hm
    rcases List.mem_pair.1 hm with rfl | rfl
    · cases hev
      exact hc
    · cases hev
  | left h htalk hn ht hsession =>
    rw [h] at hm
    rcases List.mem_cons.1 hm with rfl | hm
    · cases hev
      obtain ⟨limit, hc⟩ := hsession.limit
      exact ⟨_, limit, ht, hc⟩
    · rcases List.mem_append.1 hm with hm | hm
      · exact absurd (htalk ev hm) hev.not_over
      · rcases List.mem_cons.1 hm with rfl | hm
        · cases hev
        · cases hev <;> simp at hm

/-- Sessions are opened, or tried, with the targets of the plan alone. -/
theorem Logbook.reaches {ev : Event} (hs : Logbook p n listener s) (hm : ev ∈ s.events)
    (hev : ev.Tries i c) : p.Reaches i c := by
  have hi : ev.target? = some i := by cases hev <;> rfl
  have hv := List.getElem?_eq_getElem (hs.targets ev hm i hi)
  exact (hs.visits i _ hv).reaches (mem_logOf.2 ⟨hm, hi⟩) hev

end StateCheck.Run
