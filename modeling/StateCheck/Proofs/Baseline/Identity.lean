import StateCheck.Proofs.Baseline.Confirmation
import StateCheck.Proofs.Json.Reading
import StateCheck.Proofs.Number.Reading

/-!
Assertions about the identity of a device: which of them the device itself confirms. They expect
texts without the quotes of JSON, and may expect at one path what was found at another.
-/

namespace StateCheck.Baseline

variable {s : Source} {path text value : String} {paths : List String}

/-! ### Plain texts -/

/-- The text is that of a JSON string. -/
def IsQuoted (text : String) : Prop := ∃ value, Json.read? text.toList = some (.string value)

/-- The string that a text stands for: what it quotes, or else the text itself. -/
inductive Stands (text : String) : String → Prop
  | quoted {value : String} (h : Json.read? text.toList = some (.string value)) : Stands text value
  | itself (h : ¬IsQuoted text) : Stands text text

/-- A text stands for itself unless it is quoted, for what is quoted is shorter. -/
theorem Stands.eq_iff (h : Stands text value) : text = value ↔ ¬IsQuoted text := by
  cases h with
  | quoted h =>
    refine iff_of_false (fun heq => ?_) (not_not_intro ⟨value, h⟩)
    have hlength := Json.length_lt_of_read? h
    rw [heq] at hlength
    exact absurd hlength (Nat.lt_irrefl _)
  | itself h => exact iff_of_true rfl h

theorem Stands.eq {value' : String} (h : Stands text value) (h' : Stands text value') :
    value = value' := by
  cases h with
  | quoted h =>
    cases h' with
    | quoted h' => exact Json.Value.string.inj (Option.some.inj (h.symm.trans h'))
    | itself hplain => exact absurd ⟨value, h⟩ hplain
  | itself hplain =>
    cases h' with
    | quoted h' => exact absurd ⟨value', h'⟩ hplain
    | itself => rfl

/-- The plain text of a value: no other JSON text has quotes at its ends that could be lost. -/
theorem stands_decode (text : String) : Stands text
    (match decode text with
    | .string value => value
    | _ => String.ofList (Text.trimWhile (· = '"') text.toList)) := by
  unfold decode
  cases h : Json.read? text.toList with
  | none =>
    refine .itself ?_
    rintro ⟨value, hvalue⟩
    rw [h] at hvalue
    cases hvalue
  | some v =>
    have hother (hv : ∀ value, v ≠ .string value) :
        Stands text (String.ofList (Text.trimWhile (· = '"') text.toList)) := by
      obtain ⟨hfirst, hlast⟩ := Json.ends_of_read? h hv
      have htrim := Text.trimWhile_eq_self (p := (· = '"'))
        (fun c hc => decide_eq_false (hfirst c hc)) (fun c hc => decide_eq_false (hlast c hc))
      rw [htrim, String.ofList_toList]
      refine .itself ?_
      rintro ⟨value, hvalue⟩
      rw [h] at hvalue
      exact hv value (Option.some.inj hvalue)
    cases v with
    | string value => exact .quoted h
    | _ => exact hother nofun

/-! ### Questions for texts -/

/-- Every request is answered with a value that has a text, or fails as requests do. -/
def Source.Orderly (s : Source) : Prop := ∀ path,
  (∃ answer text, s.answer path = .ok answer ∧ Device.Value.textOf answer.value = .ok text) ∨
    ∃ f cause, s.answer path = .error (.failure f cause) ∧ f.kind = .fetch

/-- What the device tells at a path: the string that its text stands for, or nothing. -/
inductive Source.Tells (s : Source) (path : String) : String → Prop
  | shown {text value : String} (h : s.Shows path text) (hv : Stands text value) : s.Tells path value
  | nothing (h : ∀ text, ¬s.Shows path text) : s.Tells path ""

theorem Source.Tells.shows (h : s.Tells path value) (hne : value ≠ "") :
    ∃ text, s.Shows path text ∧ Stands text value := by
  cases h with
  | shown h hv => exact ⟨_, h, hv⟩
  | nothing => exact absurd rfl hne

theorem Source.Tells.eq {value' : String} (h : s.Tells path value) (h' : s.Tells path value') :
    value = value' := by
  cases h with
  | shown h hv =>
    cases h' with
    | shown h' hv' =>
      obtain rfl := h.eq h'
      exact hv.eq hv'
    | nothing hnone => exact absurd h (hnone _)
  | nothing hnone =>
    cases h' with
    | shown h' => exact absurd h' (hnone _)
    | nothing => rfl

theorem Source.Tells.ne_empty_iff (h : s.Tells path value) :
    value ≠ "" ↔ ∃ told, told ≠ "" ∧ s.Tells path told :=
  ⟨fun hne => ⟨value, hne, h⟩, fun ⟨_, hne, h'⟩ => h.eq h' ▸ hne⟩

/-- The request for a path is answered with a value that has no text. -/
def Source.Garbles (s : Source) (path : String) (b : Breakdown) : Prop :=
  ∃ answer, s.answer path = .ok answer ∧ answer.found = true ∧
    Device.Value.textOf answer.value = .error b

theorem Source.Shows.not_garbles {b : Breakdown} (h : s.Shows path text) : ¬s.Garbles path b := by
  rintro ⟨answer, hanswer, -, hgarbled⟩
  obtain ⟨answer', hanswer', -, htext⟩ := h
  cases hanswer.symm.trans hanswer'
  cases hgarbled.symm.trans htext

/-- A question for a text breaks off where the value has none, and else is answered. -/
theorem queryText_cases
    (hs : ∀ e, s.answer path = .error e → ∃ f cause, e = .failure f cause ∧ f.kind = .fetch) :
    (∃ b, (queryText path s).outcome = .error (.breakdown b) ∧ s.Garbles path b) ∨
      ∃ value, (queryText path s).outcome = .ok value ∧ s.Tells path value ∧
        ∀ b, ¬s.Garbles path b := by
  unfold queryText
  rw [Survey.outcome_bind]
  have hfetch : (Survey.fetch path s).outcome = .ok (s.answer path) := rfl
  rw [hfetch]
  cases hanswer : s.answer path with
  | error e =>
    obtain ⟨f, cause, rfl, hkind⟩ := hs e hanswer
    dsimp only [Except.bind]
    rw [if_pos hkind]
    refine .inr ⟨"", rfl, .nothing ?_, ?_⟩
    · rintro text ⟨answer', hanswer', -⟩
      cases hanswer.symm.trans hanswer'
    · rintro b ⟨answer', hanswer', -⟩
      cases hanswer.symm.trans hanswer'
  | ok answer =>
    dsimp only [Except.bind]
    split
    · next hfound =>
      rw [Survey.outcome_bind]
      cases htext : Device.Value.textOf answer.value with
      | error b => exact .inl ⟨b, rfl, answer, hanswer, hfound, htext⟩
      | ok text =>
        have hshows : s.Shows path text := ⟨answer, hanswer, hfound, htext⟩
        have hstands := stands_decode text
        have hchecked : (Survey.checked (.ok text) s).outcome = .ok text := rfl
        rw [hchecked]
        dsimp only [Except.bind]
        cases hd : decode text <;> rw [hd] at hstands <;>
          exact .inr ⟨_, rfl, .shown hshows hstands, fun _ => hshows.not_garbles⟩
    · next hfound =>
      refine .inr ⟨"", rfl, .nothing ?_, ?_⟩
      · rintro text ⟨answer', hanswer', hfound', -⟩
        cases hanswer.symm.trans hanswer'
        exact hfound hfound'
      · rintro b ⟨answer', hanswer', hfound', -⟩
        cases hanswer.symm.trans hanswer'
        exact hfound hfound'

theorem queryText_outcome (hs : s.Orderly) (path : String) :
    ∃ value, (queryText path s).outcome = .ok value ∧ s.Tells path value := by
  have hfails (e : Fault) (he : s.answer path = .error e) :
      ∃ f cause, e = .failure f cause ∧ f.kind = .fetch := by
    obtain ⟨answer, text, hanswer, -⟩ | ⟨f, cause, hanswer, hkind⟩ := hs path
    · cases he.symm.trans hanswer
    · cases he.symm.trans hanswer
      exact ⟨f, cause, rfl, hkind⟩
  obtain ⟨b, -, answer, hanswer, -, hgarbled⟩ | ⟨value, hvalue, htells, -⟩ := queryText_cases hfails
  · obtain ⟨answer', text, hanswer', htext⟩ | ⟨f, cause, hanswer', -⟩ := hs path
    · cases hanswer.symm.trans hanswer'
      cases hgarbled.symm.trans htext
    · cases hanswer.symm.trans hanswer'
  · exact ⟨value, hvalue, htells⟩

namespace Host

/-! ### The hostname and the version -/

/-- The first value that is not empty among those that the device tells at the paths. -/
inductive First (s : Source) : List String → String → Prop
  | none : First s [] ""
  | found {path value : String} (h : s.Tells path value) (hne : value ≠ "") (paths : List String) :
    First s (path :: paths) value
  | later {path value : String} {paths : List String} (h : s.Tells path "")
    (hlater : First s paths value) : First s (path :: paths) value

theorem firstText_outcome (hs : s.Orderly) (paths : List String) :
    ∃ value, (firstText paths s).outcome = .ok value ∧ First s paths value := by
  induction paths with
  | nil => exact ⟨"", rfl, .none⟩
  | cons path paths ih =>
    obtain ⟨text, htext, htells⟩ := queryText_outcome hs path
    unfold firstText
    rw [Survey.outcome_bind, htext]
    dsimp only [Except.bind]
    split
    · next hempty =>
      subst hempty
      obtain ⟨value, hvalue, hfirst⟩ := ih
      exact ⟨value, hvalue, .later htells hfirst⟩
    · next hne => exact ⟨text, rfl, .found htells hne paths⟩

/-- An assertion about the hostname or the version of a device: where its value comes from, and
when the device confirms it. -/
inductive Accounted (s : Source) (a : Assertion) : Prop
  /-- The value was told at the path of the assertion itself, and nothing was quoted there. -/
  | own {leaf : Leaf} {text value : String} (hleaf : leaf = .hostname ∨ leaf = .version)
    (hpath : a.path = leaf.path) (hpredicate : a.predicate = some ⟨.equals, .text value⟩)
    (hne : value ≠ "") (hshows : s.Shows leaf.canonical.text text) (hstands : Stands text value)
    (hpass : s.Confirms a ↔ ¬IsQuoted text)
  /-- The value was told at the path of the configured hostname, since the device tells none that
  is in use. -/
  | borrowed {value : String} (hpath : a.path = Leaf.hostname.path)
    (hpredicate : a.predicate = some ⟨.equals, .text value⟩) (hne : value ≠ "")
    (hnone : s.Tells Leaf.hostname.canonical.text "") (htells : s.Tells "/system/config/hostname" value)
    (hpass : s.Confirms a ↔ s.Shows Leaf.hostname.canonical.text value)

theorem text_hostname : Leaf.hostname.canonical.text = "/system/state/hostname" := by
  decide +kernel

theorem text_version : Leaf.version.canonical.text = versionPath := by decide +kernel

theorem confirms_leaf_iff {leaf : Leaf} (hkeys : leaf.keys = []) :
    s.Confirms (equality text leaf.path value) ↔ s.Shows leaf.canonical.text value := by
  have hexpand : Path.expand leaf.path = leaf.canonical.text := Leaf.expand_path (by simp [hkeys])
  rw [confirms_equality_iff, hexpand]

theorem accounted_own {leaf : Leaf} (hleaf : leaf = .hostname ∨ leaf = .version) (label : String)
    (hne : value ≠ "") (h : s.Tells leaf.canonical.text value) :
    Accounted s (equality label leaf.path value) := by
  have hkeys : leaf.keys = [] := by rcases hleaf with rfl | rfl <;> rfl
  obtain ⟨text, hshows, hstands⟩ := h.shows hne
  refine .own hleaf rfl rfl hne hshows hstands ?_
  rw [confirms_leaf_iff hkeys, ← hstands.eq_iff]
  exact ⟨fun h => hshows.eq h, fun h => h ▸ hshows⟩

theorem accounted_hostname (label : String) (hne : value ≠ "") (h : First s namePaths value) :
    Accounted s (equality label Leaf.hostname.path value) := by
  cases h with
  | found h => exact accounted_own (.inl rfl) label hne (text_hostname ▸ h)
  | later hnone h =>
    cases h with
    | found h => exact .borrowed rfl rfl hne (text_hostname ▸ hnone) h (confirms_leaf_iff rfl)
    | later _ h =>
      cases h
      exact absurd rfl hne

theorem mem_statement_iff {a : Assertion} {label : String} : a ∈ statement label path value ↔
    value ≠ "" ∧ a = equality (label ++ " is " ++ value) path value := by
  unfold statement
  split <;> simp_all

theorem exists_statements_iff {label label' path' value' other : String} :
    (∃ a ∈ statement label path value ++ statement label' path' value', a.path = other) ↔
      value ≠ "" ∧ path = other ∨ value' ≠ "" ∧ path' = other := by
  simp only [List.mem_append, mem_statement_iff, or_and_right, exists_or, and_assoc,
    exists_and_left, exists_eq_left, equality]

theorem First.ne_empty_iff (h : First s paths value) :
    value ≠ "" ↔ ∃ path ∈ paths, ∃ told, told ≠ "" ∧ s.Tells path told := by
  induction h with
  | none => simp
  | found h hne paths => exact iff_of_true hne ⟨_, List.mem_cons_self, _, hne, h⟩
  | later h hlater ih =>
    rw [ih, List.exists_mem_cons_iff]
    refine ⟨.inr, ?_⟩
    rintro (⟨told, hne, htold⟩ | h')
    · exact absurd (htold.eq h) hne
    · exact h'

/-- On every device a survey finds an assertion about the hostname exactly if the device tells one
that is in use or configured, and one about the version exactly if it tells that. They pass on the
device itself, unless the value was quoted or is a configured hostname. -/
theorem accounted_of_survey (hs : s.Orderly) :
    ∃ found, (generator.survey s).outcome = .ok found ∧ (∀ a ∈ found, Accounted s a) ∧
      ((∃ a ∈ found, a.path = Leaf.hostname.path) ↔
        ∃ path ∈ namePaths, ∃ told, told ≠ "" ∧ s.Tells path told) ∧
      ((∃ a ∈ found, a.path = Leaf.version.path) ↔
        ∃ told, told ≠ "" ∧ s.Tells versionPath told) := by
  obtain ⟨name, hname, hfirst⟩ := firstText_outcome hs namePaths
  obtain ⟨version, hversion, htells⟩ := queryText_outcome hs versionPath
  have houtcome : (generator.survey s).outcome =
      .ok (statement "Hostname" Leaf.hostname.path name ++
        statement "Software version" Leaf.version.path version) := by
    unfold generator
    dsimp only
    rw [Survey.outcome_bind, hname]
    dsimp only [Except.bind]
    rw [Survey.outcome_bind, hversion]
    rfl
  have hdistinct : Leaf.version.path ≠ Leaf.hostname.path := by decide +kernel
  refine ⟨_, houtcome, ?_, ?_, ?_⟩
  · intro a ha
    rcases List.mem_append.1 ha with ha | ha
    · obtain ⟨hne, rfl⟩ := mem_statement_iff.1 ha
      exact accounted_hostname _ hne hfirst
    · obtain ⟨hne, rfl⟩ := mem_statement_iff.1 ha
      exact accounted_own (.inr rfl) _ hne (text_version ▸ htells)
  · refine exists_statements_iff.trans (Iff.trans ?_ hfirst.ne_empty_iff)
    simp only [hdistinct, and_false, or_false, and_true]
  · refine exists_statements_iff.trans (Iff.trans ?_ htells.ne_empty_iff)
    simp only [hdistinct.symm, and_false, false_or, and_true]

theorem orderly_ofTexts (texts : List (String × String)) : (Source.ofTexts texts).Orderly := by
  intro path
  unfold Source.ofTexts
  dsimp only
  cases texts.lookup path with
  | some text => exact .inl ⟨_, text, rfl, rfl⟩
  | none => exact .inl ⟨_, "", rfl, rfl⟩

/-- A device with a quoted version. -/
def upgraded : Source :=
  .ofTexts [("/system/state/hostname", "r1"), ("/system/state/software-version", "\"4.31\"")]

theorem accounted_of_survey_upgraded : upgraded.Orderly ∧
    ∃ found, (generator.survey upgraded).outcome = .ok found ∧
      (∀ a ∈ found, Accounted upgraded a) ∧ ∃ a ∈ found, a.path = Leaf.version.path := by
  have hs : upgraded.Orderly := orderly_ofTexts _
  have hshows : upgraded.Shows versionPath "\"4.31\"" := shows_ofTexts rfl
  have hstands : Stands "\"4.31\"" "4.31" := .quoted (by rfl)
  obtain ⟨found, hfound, haccounted, -, hversion⟩ := accounted_of_survey hs
  exact ⟨hs, found, hfound, haccounted,
    hversion.2 ⟨"4.31", by decide, .shown hshows hstands⟩⟩

/-- A device whose hostname is configured, but not in use. -/
def configured : Source := .ofTexts [("/system/config/hostname", "r1")]

/-- The assertion about a hostname that is only configured fails on the device. -/
theorem unconfirmed_hostname : configured.Orderly ∧
    ∃ a, (generator.survey configured).outcome = .ok [a] ∧ a.path = Leaf.hostname.path ∧
      ¬configured.Confirms a := by
  refine ⟨orderly_ofTexts _, equality "Hostname is r1" Leaf.hostname.path "r1", ?_, rfl, ?_⟩
  · rw [← toOption_eq_some_iff]
    decide +kernel
  · rw [confirms_leaf_iff rfl]
    rintro ⟨answer, hanswer, hfound, -⟩
    cases hanswer
    cases hfound

end Host

end StateCheck.Baseline
