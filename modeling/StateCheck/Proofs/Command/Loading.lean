import StateCheck.Command.Program
import StateCheck.Proofs.Assertion.Loading
import StateCheck.Yaml.Load

/-!
Commands on assertion files that cannot be used: what they say about them, and when they say
nothing.
-/

namespace StateCheck.Command

variable {here : Surroundings} {args : List String} {path : String} {b : Breakdown}

/-- What asks for a file of assertions: a check of the file, or a run with an output that is
known. -/
inductive Request.AsksFor : Request → String → Prop
  | validate (path format : String) : AsksFor (.validate path format) path
  | run (o : RunOptions) (h : formats.contains o.format = true) : AsksFor (.run o) o.file

/-- What is said about an output that is not known. -/
def unknownFormat (format : String) : String :=
  "unknown output format '" ++ format ++ "' (use text, json or html)"

/-- How a program ends that says what is wrong with a file. -/
def refusing (here : Surroundings) (notices : List String) (message : String) : Ending :=
  ⟨Action.failureCode, none,
    { start here with errors := "Error: " ++ message ++ "\n", notices }⟩

/-- How a program ends that loading breaks off. -/
def brokenOff (here : Surroundings) (notices : List String) (e : Fault) : Ending :=
  ⟨Action.failureCode, some e, { start here with notices }⟩

theorem run_refuse {α β : Type} (message : String) (k : α → Action β) (t : Trace) :
    (Action.refuse message >>= k).run t = (.error (.exit Action.failureCode),
      { t with errors := t.errors ++ ("Error: " ++ message ++ "\n") }) := by
  have hline : Action.linesText ["Error: " ++ message] = "Error: " ++ message ++ "\n" := by
    simp [Action.linesText, String.join]
  rw [← hline]
  rfl

theorem run_ofNoted_of_failure {α β : Type} {x : Noted α} {f : Failure} {cause : Option Fault}
    (hx : x.outcome = .error (.failure f cause)) (k : α → Action β) (t : Trace) :
    (Action.ofNoted x >>= k).run t = (.error (.exit Action.failureCode),
      { t with notices := t.notices ++ x.notices,
               errors := t.errors ++ ("Error: " ++ f.text ++ "\n") }) := by
  obtain ⟨notices, outcome⟩ := x
  cases hx
  exact run_refuse f.text k { t with notices := t.notices ++ notices }

theorem run_ofNoted_of_breakdown {α β : Type} {x : Noted α} {b : Breakdown}
    (hx : x.outcome = .error (.breakdown b)) (k : α → Action β) (t : Trace) :
    (Action.ofNoted x >>= k).run t =
      (.error (.fault (.breakdown b)), { t with notices := t.notices ++ x.notices }) := by
  obtain ⟨notices, outcome⟩ := x
  cases hx
  rfl

/-- What a command does first that asks for a file. -/
theorem perform_of_asksFor (here : Surroundings) {request : Request} (hr : request.AsksFor path) :
    ∃ (α : Type) (k : AssertionFile → Noted α) (k' : α → Action Unit), request.perform here =
      Action.ofNoted (AssertionFile.load here.yaml here.files path >>= k) >>= k' := by
  cases hr with
  | validate path format =>
    obtain ⟨k', hk'⟩ : ∃ k', Request.perform here (.validate path format) =
        Action.ofNoted (AssertionFile.load here.yaml here.files path) >>= k' := ⟨_, rfl⟩
    exact ⟨AssertionFile, pure, k', by rw [Noted.bind_pure, hk']⟩
  | run o hformat =>
    obtain ⟨k', hk'⟩ : ∃ k', Request.perform here (.run o) =
        Action.ofNoted (prepare here o) >>= k' := by
      change ∃ k', run here o = _
      unfold run runWith
      dsimp only
      rw [hformat]
      exact ⟨_, rfl⟩
    exact ⟨Setup, _, k', hk'⟩

/-- How a program ends that is stopped. -/
def endingOf (t : Trace) : Stop → Ending
  | .exit code => ⟨code, none, t⟩
  | .fault e => ⟨Action.failureCode, some e, t⟩

theorem program_of_stop {request : Request} {s : Stop} {t : Trace}
    (h : Request.read args = some request)
    (hrun : (request.perform here).run (start here) = (.error s, t)) :
    program here args = endingOf t s := by
  unfold program
  rw [h]
  dsimp only
  rw [hrun]
  cases s <;> rfl

theorem program_of_failure {request : Request} {f : Failure} {cause : Option Fault}
    (h : Request.read args = some request) (hr : request.AsksFor path)
    (hf : (AssertionFile.load here.yaml here.files path).outcome = .error (.failure f cause)) :
    program here args =
      refusing here (AssertionFile.load here.yaml here.files path).notices f.text := by
  obtain ⟨α, k, k', hperform⟩ := perform_of_asksFor here hr
  have hbind := Noted.bind_of_error hf k
  have hrun := run_ofNoted_of_failure (congrArg Noted.outcome hbind) k' (start here)
  rw [← hperform] at hrun
  rw [program_of_stop h hrun, hbind]
  simp [refusing, endingOf, start]

theorem program_of_breakdown {request : Request}
    (h : Request.read args = some request) (hr : request.AsksFor path)
    (hb : (AssertionFile.load here.yaml here.files path).outcome = .error (.breakdown b)) :
    program here args =
      brokenOff here (AssertionFile.load here.yaml here.files path).notices (.breakdown b) := by
  obtain ⟨α, k, k', hperform⟩ := perform_of_asksFor here hr
  have hbind := Noted.bind_of_error hb k
  have hrun := run_ofNoted_of_breakdown (congrArg Noted.outcome hbind) k' (start here)
  rw [← hperform] at hrun
  rw [program_of_stop h hrun, hbind]
  simp [brokenOff, endingOf, start]

theorem program_of_unknown_format {o : RunOptions} (h : Request.read args = some (.run o))
    (hformat : formats.contains o.format = false) :
    program here args = refusing here [] (unknownFormat o.format) := by
  obtain ⟨k, hk⟩ : ∃ k : Unit → Action Unit,
      Request.perform here (.run o) = Action.refuse (unknownFormat o.format) >>= k := by
    change ∃ k, run here o = _
    unfold run runWith
    dsimp only
    rw [hformat]
    exact ⟨_, rfl⟩
  have hrun := run_refuse (unknownFormat o.format) k (start here)
  rw [← hk] at hrun
  rw [program_of_stop h hrun]
  simp [refusing, endingOf, start]

/-- A file is loaded, or refused with a failure of one of two kinds, or it derails loading: in two
ways, or in one of those of the reader of its text. A check of the file and a run of it answer a
refusal with its text and nothing else, as a run does if its output is unknown; a file that derails
loading has no answer. -/
theorem load_answered (here : Surroundings) (path : String) :
    let loaded := AssertionFile.load here.yaml here.files path
    let Derails := AssertionFile.Derails here.yaml here.files path
    ((∃ f, loaded.outcome = .ok f) ∨
      (∃ f, loaded.outcome = .error (.failure f none) ∧
        (f.kind = .assertionFile ∨ f.kind = .malformedPath)) ∨
      ∃ b, Derails b) ∧
    (∀ b, loaded.outcome = .error (.breakdown b) ↔ Derails b) ∧
    (∀ b, Derails b → b = .unreadable ∨ b = .notUtf8 ∨
      ∃ text, here.files.readText path = .ok text ∧ here.yaml text = .error (.breakdown b)) ∧
    (∀ args request, Request.read args = some request → request.AsksFor path →
      (∀ f cause, loaded.outcome = .error (.failure f cause) →
        program here args = refusing here loaded.notices f.text) ∧
      ∀ b, Derails b →
        program here args = brokenOff here loaded.notices (.breakdown b)) ∧
    ∀ args o, Request.read args = some (.run o) → formats.contains o.format = false →
      program here args = refusing here [] (unknownFormat o.format) := by
  intro loaded Derails
  obtain ⟨-, hbreaks, hotherwise⟩ := AssertionFile.reads_file here.yaml here.files path
  refine ⟨?_, hbreaks, fun b => AssertionFile.Derails.eq_or_reader, ?_,
    fun args o => program_of_unknown_format⟩
  · cases h : loaded.outcome with
    | ok f => exact .inl ⟨f, rfl⟩
    | error e =>
      rcases hotherwise e h with ⟨b, rfl⟩ | ⟨f, rfl, hkind⟩
      · exact .inr (.inr ⟨b, (hbreaks b).1 h⟩)
      · exact .inr (.inl ⟨f, rfl, hkind⟩)
  · intro args request hread hasks
    exact ⟨fun f cause => program_of_failure hread hasks,
      fun b hb => program_of_breakdown hread hasks ((hbreaks b).2 hb)⟩

/-- The file that a request is to check, and the format of the answer. -/
def Request.checked? : Request → Option (String × String)
  | .validate path format => some (path, format)
  | _ => none

/-- The format in which a request for a run wants its output. -/
def Request.runFormat? : Request → Option String
  | .run o => some o.format
  | _ => none

theorem read_of_checked {format : String}
    (h : (Request.read args).bind Request.checked? = some (path, format)) :
    Request.read args = some (.validate path format) := by
  obtain ⟨request, hread, hchecked⟩ := Option.bind_eq_some_iff.1 h
  unfold Request.checked? at hchecked
  split at hchecked
  · cases hchecked
    exact hread
  · cases hchecked

theorem read_of_runFormat {format : String}
    (h : (Request.read args).bind Request.runFormat? = some format) :
    ∃ o, Request.read args = some (.run o) ∧ o.format = format := by
  obtain ⟨request, hread, hformat⟩ := Option.bind_eq_some_iff.1 h
  unfold Request.runFormat? at hformat
  split at hformat
  · next o => exact ⟨o, hread, Option.some.inj hformat⟩
  · cases hformat

/-- A file with a list in place of a mapping, and one that ends within a character. -/
def spoiled : Surroundings where
  files := .ofList [("list.yaml", .file "- 1\n".toUTF8.toList), ("raw.yaml", .file [0xC3])]
  home := "/root"
  timestamp := ""
  network := ⟨fun _ => none, fun _ _ _ => ⟨.ok ⟨none, true⟩, .zero, false, false⟩, fun _ => none⟩
  yaml := Yaml.load

def failureText? : Except Fault AssertionFile → Option String
  | .error (.failure f _) => some f.text
  | _ => none

theorem eq_of_failureText? {o : Except Fault AssertionFile} {text : String}
    (h : failureText? o = some text) :
    ∃ f cause, o = .error (.failure f cause) ∧ f.text = text := by
  unfold failureText? at h
  split at h
  · next f cause => exact ⟨f, cause, rfl, Option.some.inj h⟩
  · cases h

theorem load_of_raw : (AssertionFile.load spoiled.yaml spoiled.files "raw.yaml").outcome =
    .error (.breakdown .notUtf8) := by
  have hentry : spoiled.files.entry "raw.yaml" = .ok (.file [0xC3]) := by decide +kernel
  exact ((AssertionFile.reads_file _ _ _).breaks _).2
    (.bytes (by decide) hentry (by decide +kernel))

theorem notices_spoiled : ∀ path ∈ ["list.yaml", "raw.yaml"],
    (AssertionFile.load spoiled.yaml spoiled.files path).notices = [] := by decide +kernel

theorem load_answered_spoiled :
    program spoiled ["validate", "list.yaml"] = refusing spoiled []
      "assertion file must be a mapping with a 'targets' list" ∧
    program spoiled ["validate", "raw.yaml"] = brokenOff spoiled [] (.breakdown .notUtf8) ∧
    program spoiled ["run", "-o", "xml", "raw.yaml"] = refusing spoiled []
      "unknown output format 'xml' (use text, json or html)" := by
  obtain ⟨-, -, -, hlist, -⟩ := load_answered spoiled "list.yaml"
  obtain ⟨-, hderails, -, hraw, hunknown⟩ := load_answered spoiled "raw.yaml"
  have hreadlist : Request.read ["validate", "list.yaml"] = some (.validate "list.yaml" "text") :=
    read_of_checked (by decide +kernel)
  have hreadraw : Request.read ["validate", "raw.yaml"] = some (.validate "raw.yaml" "text") :=
    read_of_checked (by decide +kernel)
  obtain ⟨o, hreadrun, hformat⟩ : ∃ o, Request.read ["run", "-o", "xml", "raw.yaml"] =
      some (.run o) ∧ o.format = "xml" := read_of_runFormat (by decide +kernel)
  obtain ⟨f, cause, hf, htext⟩ : ∃ f cause,
      (AssertionFile.load spoiled.yaml spoiled.files "list.yaml").outcome =
        .error (.failure f cause) ∧
      f.text = "assertion file must be a mapping with a 'targets' list" :=
    eq_of_failureText? (by decide +kernel)
  refine ⟨?_, ?_, ?_⟩
  · rw [(hlist _ _ hreadlist (.validate _ _)).1 f cause hf, htext, notices_spoiled _ (by simp)]
  · rw [(hraw _ _ hreadraw (.validate _ _)).2 _ ((hderails _).1 load_of_raw),
      notices_spoiled _ (by simp)]
  · rw [hunknown _ o hreadrun (by rw [hformat]; decide), hformat]
    rfl

/-- A file of bytes that are no text is not answered. -/
theorem raw_unanswered :
    (AssertionFile.load spoiled.yaml spoiled.files "raw.yaml").outcome =
      .error (.breakdown .notUtf8) ∧
    (program spoiled ["validate", "raw.yaml"]).trace.errors = "" := by
  have hread : Request.read ["validate", "raw.yaml"] = some (.validate "raw.yaml" "text") :=
    read_of_checked (by decide +kernel)
  refine ⟨load_of_raw, ?_⟩
  rw [program_of_breakdown hread (.validate _ _) load_of_raw]
  rfl

end StateCheck.Command
