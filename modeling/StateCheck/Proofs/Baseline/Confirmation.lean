import StateCheck.Proofs.Assertion.Evaluation
import StateCheck.Proofs.Baseline.Origin
import StateCheck.Run.Steps

/-!
Assertions of a baseline that are evaluated on the device they were made from. An assertion of
equality passes exactly if the device shows the expected text at its path.
-/

namespace StateCheck.Baseline

variable {s : Source} {path name text value : String} {a : Assertion}

/-- The path exists on the device, and its value has this text. -/
def Source.Shows (s : Source) (path text : String) : Prop :=
  ∃ answer, s.answer path = .ok answer ∧ answer.found = true ∧
    Device.Value.textOf answer.value = .ok text

theorem Source.Shows.eq {text' : String} (h : s.Shows path text) (h' : s.Shows path text') :
    text = text' := by
  obtain ⟨answer, hanswer, -, htext⟩ := h
  obtain ⟨answer', hanswer', -, htext'⟩ := h'
  cases hanswer.symm.trans hanswer'
  exact Except.ok.inj (htext.symm.trans htext')

/-- What a run makes of the assertion on the device, which it asks for the canonical path. -/
def Source.check (s : Source) (a : Assertion) : Except Breakdown Result :=
  let a := { a with path := Path.expand a.path }
  Run.judge ⟨s.address, .none, [a]⟩ a (s.answer a.path)

/-- The assertion passes on the device. -/
def Source.Confirms (s : Source) (a : Assertion) : Prop :=
  ∃ r, s.check a = .ok r ∧ r.verdict = .pass

theorem judged_pass_iff {passed : Bool} : (a.judged text passed).verdict = .pass ↔ passed = true := by
  cases passed <;> simp [Assertion.judged, Result.verdict]

theorem evaluate_equality (found : Bool) : (equality name path value).evaluate text found =
    .ok (if found then (equality name path value).judged text (text == value)
      else (equality name path value).refused text "path does not exist" []) := by
  cases found <;> rfl

/-- An assertion of equality passes exactly if the device shows the expected text. -/
theorem confirms_equality_iff :
    s.Confirms (equality name path value) ↔ s.Shows (Path.expand path) value := by
  have hcheck : s.check (equality name path value) =
      Run.judge ⟨s.address, .none, [equality name (Path.expand path) value]⟩
        (equality name (Path.expand path) value) (s.answer (Path.expand path)) := rfl
  unfold Source.Confirms
  rw [hcheck]
  constructor
  · rintro ⟨r, hr, hpass⟩
    cases hanswer : s.answer (Path.expand path) with
    | error e =>
      rw [hanswer] at hr
      cases hr
      cases hpass
    | ok answer =>
      rw [hanswer] at hr
      obtain ⟨text, htext, hr⟩ := bind_eq_ok hr
      rw [evaluate_equality] at hr
      cases hfound : answer.found with
      | false =>
        rw [hfound] at hr
        cases hr
        cases hpass
      | true =>
        rw [hfound] at hr
        cases hr
        obtain rfl : text = value := by simpa using judged_pass_iff.1 hpass
        exact ⟨answer, hanswer, hfound, htext⟩
  · rintro ⟨answer, hanswer, hfound, htext⟩
    refine ⟨(equality name (Path.expand path) value).judged value true, ?_, rfl⟩
    simp only [Run.judge, hanswer, htext]
    change (equality name (Path.expand path) value).evaluate value answer.found = _
    rw [evaluate_equality, hfound]
    simp

theorem shows_of_reports {doc : Json.Value} : s.Reports path doc ↔
    ∃ text, s.Shows path text ∧ decode text = doc := by
  constructor
  · rintro ⟨answer, text, hanswer, hfound, htext, hdoc⟩
    exact ⟨text, ⟨answer, hanswer, hfound, htext⟩, hdoc⟩
  · rintro ⟨text, ⟨answer, hanswer, hfound, htext⟩, hdoc⟩
    exact ⟨answer, text, hanswer, hfound, htext, hdoc⟩

/-- A device that shows texts at some paths, and has no others. -/
def Source.ofTexts (texts : List (String × String)) : Source where
  address := "r"
  answer path := .ok (match texts.lookup path with
    | some text => ⟨some ⟨.string, .string text⟩, true⟩
    | none => Device.missing)

theorem shows_ofTexts {texts : List (String × String)} (h : texts.lookup path = some text) :
    (Source.ofTexts texts).Shows path text := by
  have hanswer : (Source.ofTexts texts).answer path = .ok ⟨some ⟨.string, .string text⟩, true⟩ := by
    unfold Source.ofTexts
    dsimp only
    rw [h]
  exact ⟨_, hanswer, rfl, rfl⟩

end StateCheck.Baseline
