import StateCheck.Command.Program
import StateCheck.Proofs.Noted
import StateCheck.Proofs.Run.Sessions
import StateCheck.Yaml.Load

/-!
The exit code of the command that evaluates assertion files.
-/

namespace StateCheck.Command

/-! ### Codes of actions -/

/-- The exit code of a program that ends as an action does. -/
def codeOf : Except Stop Unit → Nat
  | .ok () => 0
  | .error (.exit code) => code
  | .error (.fault _) => Action.failureCode

namespace Action

variable {α : Type} {t : Trace}

def code (a : Action Unit) (t : Trace) : Nat := codeOf (a.run t).1

theorem code_record_bind (deeds : List Deed) (f : Unit → Action Unit) :
    code (record deeds >>= f) t = code (f ()) { t with deeds := t.deeds ++ deeds } := rfl

theorem code_complainAll_bind (lines : List String) (f : Unit → Action Unit) :
    code (complainAll lines >>= f) t =
      code (f ()) { t with errors := t.errors ++ linesText lines } := rfl

theorem code_sayAll_bind (lines : List String) (f : Unit → Action Unit) :
    code (sayAll lines >>= f) t =
      code (f ()) { t with output := t.output ++ linesText lines } := rfl

theorem code_say_bind (line : String) (f : Unit → Action Unit) :
    code (say line >>= f) t =
      code (f ()) { t with output := t.output ++ linesText [line] } := rfl

theorem code_get_bind (f : Trace → Action Unit) :
    code ((get : Action Trace) >>= f) t = code (f t) t := rfl

theorem code_ofNoted_bind (x : Noted α) (f : α → Action Unit) :
    code (ofNoted x >>= f) t =
      match x.outcome with
      | .ok a => code (f a) { t with notices := t.notices ++ x.notices }
      | .error _ => failureCode := by
  obtain ⟨notices, outcome⟩ := x
  cases outcome with
  | ok a => rfl
  | error e => cases e <;> rfl

theorem code_setFiles_bind (x : Except Files.Refusal Files) (f : Unit → Action Unit) :
    code (setFiles x >>= f) t =
      match x with
      | .ok files => code (f ()) { t with files }
      | .error _ => failureCode := by
  cases x <;> rfl

end Action

/-! ### The code of a run -/

open StateCheck.Command.Action

variable {here : Surroundings} {o : RunOptions} {t : Trace}

theorem code_exit (outcome : Run.Outcome) (t : Trace) :
    code (if exitCode outcome ≠ 0 then stop (.exit (exitCode outcome)) else pure ()) t =
      exitCode outcome := by
  by_cases h : exitCode outcome = 0
  · rw [if_neg (not_not_intro h), h]
    rfl
  · rw [if_pos h]
    rfl

theorem code_savePage_bind (o : RunOptions) (r : Report) (outcome : Run.Outcome) (t : Trace) :
    code (savePage o r >>= fun _ =>
      if exitCode outcome ≠ 0 then stop (.exit (exitCode outcome)) else pure ()) t =
      match r.save o.page t.files with
      | .ok _ => exitCode outcome
      | .error _ => failureCode := by
  simp only [savePage, bind_assoc, code_get_bind, code_setFiles_bind]
  cases r.save o.page t.files with
  | error e => rfl
  | ok files =>
    by_cases h : o.format = standardFormat
    · simp only [if_pos h, code_say_bind, code_exit]
    · simp only [if_neg h, pure_bind, code_exit]

/-- The exit code for the final state of a run. -/
theorem code_conclude (here : Surroundings) (setup : Setup) (s : Run.State) (t : Trace) :
    code (conclude here setup s) t =
      match (Run.conclude s).outcome with
      | .error _ => failureCode
      | .ok outcome =>
        if setup.options.page = "" then exitCode outcome
        else
          match (setup.report here.timestamp outcome).save setup.options.page t.files with
          | .ok _ => exitCode outcome
          | .error _ => failureCode := by
  by_cases hf : setup.options.format = standardFormat
  all_goals
    simp only [conclude, code_record_bind, code_complainAll_bind, hf, if_true, if_false,
      code_sayAll_bind, code_ofNoted_bind, code_say_bind]
    cases (Run.conclude s).outcome with
    | error e => rfl
    | ok outcome =>
      by_cases hp : setup.options.page = ""
      · simp only [hp, ne_eq, not_true, if_false, if_true]
        exact code_exit ..
      · simp only [hp, ne_eq, not_false_eq_true, if_false, if_true]
        exact code_savePage_bind ..

theorem code_runWith (here : Surroundings) (o : RunOptions)
    (execute : Run.Plan → Run.Listener → Run.State) (t : Trace) :
    code (runWith here o execute) t =
      if formats.contains o.format then
        match (prepare here o).outcome with
        | .error _ => failureCode
        | .ok setup => code (conclude here setup (execute setup.plan setup.listener)) t
      else failureCode := by
  unfold runWith
  cases hk : formats.contains o.format with
  | false => rfl
  | true =>
    simp only [Bool.not_true, Bool.false_eq_true, if_false, if_true, code_ofNoted_bind]
    cases (prepare here o).outcome with
    | error e => rfl
    | ok setup =>
      by_cases hf : o.format = standardFormat
      · simp only [if_pos hf, code_say_bind, code_conclude]
      · simp only [if_neg hf, code_conclude]

theorem exitCode_eq_zero_iff {outcome : Run.Outcome} : exitCode outcome = 0 ↔
    (∀ r ∈ outcome.results, r.verdict = .pass) ∧ outcome.cancelled = false := by
  have hsucceeded : outcome.succeeded = true ↔ ∀ r ∈ outcome.results, r.verdict = .pass := by
    simp only [Run.Outcome.succeeded, Run.Outcome.count, Bool.and_eq_true, beq_iff_eq,
      List.countP_eq_zero]
    constructor
    · rintro ⟨hfail, herror⟩ r hr
      have hf := hfail r hr
      have he := herror r hr
      cases hv : r.verdict <;> simp_all
    · intro h
      exact ⟨fun r hr => by simp [h r hr], fun r hr => by simp [h r hr]⟩
  rw [← hsucceeded]
  unfold exitCode
  cases outcome.succeeded <;> cases outcome.cancelled <;> simp [failureCode]

/-! ### Preparation -/

theorem expandGroups_eq_ok {i : Inventory} {f g : AssertionFile} {group : String}
    (h : (expandGroups i f group).outcome = .ok g) : (i.expandFile f group).outcome = .ok g := by
  unfold expandGroups at h
  rw [Noted.outcome_bind] at h
  obtain ⟨g', hg, h⟩ := bind_eq_ok h
  split at h
  · cases h
  · cases h
    exact hg

theorem inventoryFor_eq_none {f : AssertionFile}
    (h : (inventoryFor here o f).outcome = .ok none) :
    f.targets.any Target.isGroup = false ∧ o.group = "" := by
  unfold inventoryFor at h
  dsimp only at h
  split at h
  · next hnone =>
    obtain ⟨-, hrefers, hgroup⟩ := hnone
    exact ⟨by simpa using hrefers, hgroup⟩
  · rw [Noted.outcome_map] at h
    obtain ⟨i, -, hi⟩ := map_eq_ok h
    cases hi

/-- A run is prepared for the targets that are left of its file after groups are expanded and the
targets restricted to a group. -/
def Setup.IsFor (here : Surroundings) (o : RunOptions) (setup : Setup) : Prop :=
  ∃ f, (AssertionFile.load here.yaml here.files o.file).outcome = .ok f ∧
    match setup.inventory with
    | none => f.targets.any Target.isGroup = false ∧ o.group = "" ∧ setup.file = f
    | some i => (i.expandFile f o.group).outcome = .ok setup.file

theorem prepare_eq_ok {setup : Setup} (h : (prepare here o).outcome = .ok setup) :
    setup.options = o ∧ setup.IsFor here o := by
  unfold prepare at h
  simp only [Noted.outcome_bind, bind_eq_ok_iff] at h
  obtain ⟨f, hf, inventory, hinventory, h⟩ := h
  cases inventory with
  | none =>
    simp only [Noted.outcome_bind, Noted.outcome_pure, bind_eq_ok_iff, Except.ok.injEq] at h
    obtain ⟨_, rfl, settings, -, limit, -, rfl⟩ := h
    obtain ⟨hgroups, hgroup⟩ := inventoryFor_eq_none hinventory
    exact ⟨rfl, f, hf, hgroups, hgroup, rfl⟩
  | some i =>
    simp only [Noted.outcome_bind, Noted.outcome_pure, bind_eq_ok_iff, Except.ok.injEq] at h
    obtain ⟨g, hg, settings, -, limit, -, rfl⟩ := h
    exact ⟨rfl, f, hf, expandGroups_eq_ok hg⟩

/-! ### Exit code zero -/

theorem code_runWith_eq_zero_iff {execute : Run.Plan → Run.Listener → Run.State} :
    code (runWith here o execute) t = 0 ↔
      formats.contains o.format = true ∧ ∃ setup outcome, (prepare here o).outcome = .ok setup ∧
        (Run.conclude (execute setup.plan setup.listener)).outcome = .ok outcome ∧
        (∀ r ∈ outcome.results, r.verdict = .pass) ∧ outcome.cancelled = false ∧
        (o.page = "" ∨
          ∃ files, (setup.report here.timestamp outcome).save o.page t.files = .ok files) := by
  have hfailure : failureCode ≠ 0 := by decide
  rw [code_runWith]
  cases formats.contains o.format with
  | false => simp [hfailure]
  | true =>
    cases hp : (prepare here o).outcome with
    | error e => simp [hfailure]
    | ok setup =>
      obtain ⟨hoptions, -⟩ := prepare_eq_ok hp
      simp only [if_true, code_conclude, hoptions]
      cases hc : (Run.conclude (execute setup.plan setup.listener)).outcome with
      | error e => simp [hfailure, hc]
      | ok outcome =>
        have hexit : exitCode outcome = 0 ↔ _ := exitCode_eq_zero_iff
        by_cases hpage : o.page = ""
        · simp [hpage, hexit, hc]
        · cases hs : (setup.report here.timestamp outcome).save o.page t.files <;>
            simp [hpage, hexit, hc, hs, hfailure]

/-- The run that a schedule leads to on a network. -/
def following (n : Run.Network) (schedule : List Run.Move) (plan : Run.Plan)
    (listener : Run.Listener) : Run.State :=
  Run.follow plan n listener schedule (.start plan)

/-- Whatever the network does and however the steps of the run follow each other: the exit code is
zero only if every target that is left was reached, and every assertion of it was evaluated and
passed. It is zero if all results passed, nothing was left out and the page of the report can be
written. -/
theorem code_eq_zero_sound (here : Surroundings) (o : RunOptions) (n : Run.Network)
    (schedule : List Run.Move) (t : Trace)
    (hover : ∀ setup, (prepare here o).outcome = .ok setup →
      (following n schedule setup.plan setup.listener).isOver = true) :
    (code (runWith here o (following n schedule)) t = 0 →
      ∃ setup outcome, (prepare here o).outcome = .ok setup ∧ setup.IsFor here o ∧
        let s := following n schedule setup.plan setup.listener
        (Run.conclude s).outcome = .ok outcome ∧ outcome.cancelled = false ∧
        Run.Covered setup.plan n s outcome.results ∧
        ∀ r ∈ outcome.results, r.verdict = .pass) ∧
    ∀ setup outcome, formats.contains o.format = true → (prepare here o).outcome = .ok setup →
      (Run.conclude (following n schedule setup.plan setup.listener)).outcome = .ok outcome →
      (∀ r ∈ outcome.results, r.verdict = .pass) → outcome.cancelled = false →
      (o.page = "" ∨
        ∃ files, (setup.report here.timestamp outcome).save o.page t.files = .ok files) →
      code (runWith here o (following n schedule)) t = 0 := by
  constructor
  · intro hcode
    obtain ⟨-, setup, outcome, hprepare, hconclude, hpass, hcancelled, -⟩ :=
      code_runWith_eq_zero_iff.1 hcode
    have hcovered := Run.covered_of_conclude (hover setup hprepare) hconclude hcancelled
    exact ⟨setup, outcome, hprepare, (prepare_eq_ok hprepare).2, hconclude, hcancelled, hcovered,
      hpass⟩
  · intro setup outcome hformat hprepare hconclude hpass hcancelled hpage
    exact code_runWith_eq_zero_iff.2
      ⟨hformat, setup, outcome, hprepare, hconclude, hpass, hcancelled, hpage⟩

/-! ### A small run -/

/-- An assertion file and no other files; nothing is reached but by a run. -/
def smallSurroundings : Surroundings where
  files := .ofList [("checks.yaml", .file
    ("targets: [{host: r, assertions: [{path: a, exists: true}]}]".toList.map fun c =>
      c.toNat.toUInt8))]
  home := "/root"
  timestamp := ""
  network := ⟨fun _ => none, fun _ _ _ => ⟨.ok ⟨none, true⟩, .zero, false, false⟩, fun _ => none⟩
  yaml := Yaml.load

def smallOptions : RunOptions where
  file := "checks.yaml"
  workers := 1
  parallel := 1
  inventory := ""
  group := ""
  timeout := none
  format := standardFormat
  page := ""
  title := ""
  failFast := false
  verbose := false

/-- The one assertion of the one target is evaluated between the ends of its session. -/
def smallSchedule : List Run.Move :=
  [.target 0, .target 0] ++ List.replicate 5 (.assertion 0 0) ++ [.target 0]

theorem code_eq_zero_small :
    let execute := following Run.calmNetwork smallSchedule
    code (runWith smallSurroundings smallOptions execute) (start smallSurroundings) = 0 ∧
      ∃ setup outcome, (prepare smallSurroundings smallOptions).outcome = .ok setup ∧
        (Run.conclude (execute setup.plan setup.listener)).outcome = .ok outcome ∧
        outcome.cancelled = false ∧ ∀ r ∈ outcome.results, r.verdict = .pass := by
  intro execute
  have hcode : code (runWith smallSurroundings smallOptions execute) (start smallSurroundings) =
      0 := by decide +kernel
  have hover : ∀ setup, (prepare smallSurroundings smallOptions).outcome = .ok setup →
      (execute setup.plan setup.listener).isOver = true := by
    have hend : (match (prepare smallSurroundings smallOptions).outcome with
        | .ok setup => (execute setup.plan setup.listener).isOver
        | .error _ => false) = true := by decide +kernel
    intro setup hsetup
    rw [hsetup] at hend
    exact hend
  obtain ⟨setup, outcome, hprepare, -, hconclude, hcancelled, -, hpass⟩ :=
    (code_eq_zero_sound smallSurroundings smallOptions Run.calmNetwork smallSchedule _ hover).1
      hcode
  exact ⟨hcode, setup, outcome, hprepare, hconclude, hcancelled, hpass⟩

end StateCheck.Command
