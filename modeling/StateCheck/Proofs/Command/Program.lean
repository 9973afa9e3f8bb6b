import StateCheck.Proofs.Command.ExitCode
import StateCheck.Proofs.Run.Finish

/-!
The exit code of the program when its arguments ask for a run.
-/

namespace StateCheck.Command

open StateCheck.Command.Action

variable {here : Surroundings} {o : RunOptions}

/-! ### Requests for a run -/

theorem readCount_pos {text : String} {k : Nat} (h : readCount text = some k) : 0 < k := by
  obtain ⟨i, -, hi⟩ := Option.bind_eq_some_iff.1 h
  split at hi
  · cases hi
    omega
  · cases hi

theorem optional_pos {text : Option String} {k : Option Nat} {standard : Nat}
    (h : optional readCount text = some k) (hstandard : 0 < standard) : 0 < k.getD standard := by
  cases text with
  | none =>
    cases h
    exact hstandard
  | some text =>
    obtain ⟨i, hi, rfl⟩ := Option.map_eq_some_iff.1 h
    exact readCount_pos hi

theorem runOptions_pos {a : Arguments} (h : runOptions a = some o) :
    0 < o.workers ∧ 0 < o.parallel := by
  unfold runOptions at h
  split at h
  · simp only [Option.bind_eq_bind, Option.bind_eq_some_iff] at h
    obtain ⟨workers, hworkers, parallel, hparallel, timeout, -, ho⟩ := h
    cases ho
    exact ⟨optional_pos hworkers (by decide), optional_pos hparallel (by decide)⟩
  · cases h

theorem readCommand_run {switches : List Switch} {request : Arguments → Option Request}
    {args : List String} (h : readCommand switches request args = some (.run o)) :
    ∃ a, request a = some (.run o) := by
  obtain ⟨a, -, ha⟩ := Option.bind_eq_some_iff.1 h
  split at ha
  · cases ha
  · exact ⟨a, ha⟩

theorem readChoice_run {commands : List (String × (List String → Option Request))}
    {args : List String} (h : readChoice commands args = some (.run o)) :
    ∃ name command rest, (name, command) ∈ commands ∧ command rest = some (.run o) := by
  unfold readChoice at h
  split at h
  · cases h
  · cases h
  · cases h
  · next name rest hargs =>
    obtain ⟨command, hcommand, hr⟩ := Option.bind_eq_some_iff.1 h
    obtain ⟨before, after, hsplit, -⟩ := List.lookup_eq_some_iff.1 hcommand
    exact ⟨name, command, rest, by simp [hsplit], hr⟩

theorem pathRequest_ne_run {ask : String → Request} (h : ∀ path, ask path ≠ .run o)
    (a : Arguments) : pathRequest ask a ≠ some (.run o) := by
  intro ha
  unfold pathRequest at ha
  split at ha
  · exact h _ (Option.some.inj ha)
  · cases ha

/-- One command alone asks for a run. -/
theorem exists_runOptions {args : List String} (h : Request.read args = some (.run o)) :
    ∃ a, runOptions a = some o := by
  obtain ⟨name, command, rest, hm, hr⟩ := readChoice_run h
  simp only [commands, List.mem_cons, Prod.mk.injEq, List.not_mem_nil, or_false] at hm
  obtain ⟨-, rfl⟩ | ⟨-, rfl⟩ | ⟨-, rfl⟩ | ⟨-, rfl⟩ | ⟨-, rfl⟩ | ⟨-, rfl⟩ := hm
  · obtain ⟨a, ha⟩ := readCommand_run hr
    obtain ⟨o', ho, he⟩ := Option.map_eq_some_iff.1 ha
    cases he
    exact ⟨a, ho⟩
  · obtain ⟨a, ha⟩ := readCommand_run hr
    unfold validateRequest at ha
    split at ha <;> cases ha
  · obtain ⟨a, ha⟩ := readCommand_run hr
    unfold getRequest at ha
    split at ha
    · obtain ⟨access, -, he⟩ := Option.bind_eq_some_iff.1 ha
      cases he
    · cases ha
  · obtain ⟨a, ha⟩ := readCommand_run hr
    obtain ⟨o', -, he⟩ := Option.map_eq_some_iff.1 ha
    cases he
  · obtain ⟨name, command, rest, hm, hr⟩ := readChoice_run hr
    simp only [pathCommands, List.mem_cons, Prod.mk.injEq, List.not_mem_nil, or_false] at hm
    obtain ⟨-, rfl⟩ | ⟨-, rfl⟩ := hm
    · obtain ⟨a, ha⟩ := readCommand_run hr
      exact absurd ha (pathRequest_ne_run (fun path he => by cases he) a)
    · obtain ⟨a, ha⟩ := readCommand_run hr
      exact absurd ha (pathRequest_ne_run (fun path he => by cases he) a)
  · obtain ⟨a, ha⟩ := readCommand_run hr
    unfold versionRequest at ha
    split at ha <;> cases ha

/-! ### Exit codes -/

/-- The program ends with the exit code of what it is asked for. -/
theorem program_code (here : Surroundings) {args : List String} {request : Request}
    (h : Request.read args = some request) :
    (program here args).code = Action.code (request.perform here) (start here) := by
  unfold program Action.code
  rw [h]
  dsimp only
  generalize (request.perform here).run (start here) = ending
  obtain ⟨outcome, t⟩ := ending
  cases outcome with
  | ok u => rfl
  | error e => cases e <;> rfl

/-- If the program is asked for a run and ends with code zero, it has loaded the file, reached
every target that is left, and found that each assertion holds. -/
theorem program_code_eq_zero {args : List String} (h : Request.read args = some (.run o))
    (hcode : (program here args).code = 0) :
    ∃ setup outcome, (prepare here o).outcome = .ok setup ∧ setup.IsFor here o ∧
      let network := Run.Network.ofDevices here.network
      let s := Run.finish setup.plan network setup.listener false
      (Run.conclude s).outcome = .ok outcome ∧ outcome.cancelled = false ∧
      Run.Covered setup.plan network s outcome.results ∧
      ∀ r ∈ outcome.results, r.verdict = .pass := by
  rw [program_code here h, Request.perform, run, code_runWith_eq_zero_iff] at hcode
  obtain ⟨-, setup, outcome, hprepare, hconclude, hpass, hcancelled, -⟩ := hcode
  obtain ⟨hoptions, hfor⟩ := prepare_eq_ok hprepare
  obtain ⟨a, ha⟩ := exists_runOptions h
  obtain ⟨hworkers, hparallel⟩ : 0 < setup.options.workers ∧ 0 < setup.options.parallel := by
    rw [hoptions]
    exact runOptions_pos ha
  obtain ⟨schedule, hfinish, hover⟩ := Run.finish_eq_follow setup.plan
    (.ofDevices here.network) setup.listener false hworkers hparallel
  rw [hfinish] at hover hconclude
  refine ⟨setup, outcome, hprepare, hfor, ?_⟩
  simp only [hfinish]
  exact ⟨hconclude, hcancelled, Run.covered_of_conclude hover hconclude hcancelled, hpass⟩

end StateCheck.Command
