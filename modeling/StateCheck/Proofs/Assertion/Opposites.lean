import Mathlib.Logic.Basic
import StateCheck.Proofs.Assertion.Verdicts
import StateCheck.Proofs.Except
import StateCheck.Proofs.Number.Order

/-!
Evaluations as their predicates mean them: which ones have a result and which of these are in
error, that asking for presence and asking for absence are opposites, and that the comparisons of
numbers with a threshold are those of the line of numbers.
-/

namespace StateCheck

/-- What a comparison says of two places. -/
def Predicate.Kind.Holds {α : Type} [LE α] [LT α] (u v : α) : Predicate.Kind → Prop
  | above => v < u
  | below => u < v
  | atLeast => v ≤ u
  | atMost => u ≤ v
  | _ => False

namespace Assertion

variable {a : Assertion} {operand : Predicate.Operand} {value : String} {found : Bool}
  {kind : Predicate.Kind} {x y : Binary64} {u v : Binary64.Place}

/-! ### Verdicts -/

/-- The assertion with another predicate. -/
def asking (a : Assertion) (kind : Predicate.Kind) (operand : Predicate.Operand) : Assertion :=
  { a with predicate := some ⟨kind, operand⟩ }

/-- The verdict on an assertion, if its evaluation has a result. -/
def verdict? (a : Assertion) (value : String) (found : Bool) : Option Verdict :=
  (a.evaluate value found).toOption.map Result.verdict

theorem verdict_judged_eq (a : Assertion) (value : String) (passed : Bool) :
    (a.judged value passed).verdict = if passed then .pass else .fail := by
  cases passed <;> rfl

theorem verdict?_of_judged {passed : Bool}
    (h : a.evaluate value found = .ok (a.judged value passed)) :
    a.verdict? value found = some (if passed then .pass else .fail) := by
  rw [verdict?, h, ← verdict_judged_eq a value]
  rfl

/-! ### Presence and absence -/

theorem active?_asking (h : operand.isOn = true) :
    (a.asking kind operand).active? = some ⟨kind, operand⟩ := by
  simp [active?, asking, Predicate.isActive, h]

theorem evaluate_present (h : operand.isOn = true) :
    (a.asking .present operand).evaluate value found =
      .ok ((a.asking .present operand).judged value found) := by
  rw [evaluate, active?_asking h]

theorem evaluate_absent (h : operand.isOn = true) :
    (a.asking .absent operand).evaluate value found =
      .ok ((a.asking .absent operand).judged value !found) := by
  rw [evaluate, active?_asking h]

/-! ### Comparisons -/

theorem compare_iff (hk : kind.isNumeric = true) (hx : x.place? = some u)
    (hy : y.place? = some v) : compare kind x y = true ↔ kind.Holds u v := by
  cases kind with
  | above => exact Binary64.lt_iff hy hx
  | below => exact Binary64.lt_iff hx hy
  | atLeast => exact Binary64.le_iff hy hx
  | atMost => exact Binary64.le_iff hx hy
  | _ => cases hk

/-- NaN stands in no relation to any number. -/
theorem compare_nan (h : x = .nan ∨ y = .nan) : compare kind x y = false := by
  obtain rfl | rfl := h
  · cases kind <;> cases y <;> rfl
  · cases kind <;> cases x <;> rfl

theorem evaluate_numeric (hk : kind.isNumeric = true)
    (hx : Numeral.readFloat? value.toList = some x)
    (hy : Numeral.readFloat? operand.toText.toList = some y) :
    (a.asking kind operand).evaluate value true =
      .ok ((a.asking kind operand).judged value (compare kind x y)) := by
  have hweigh : (a.asking kind operand).weigh kind operand.toText value =
      (a.asking kind operand).judged value (compare kind x y) := by
    simp only [weigh, hx, hy]
  rw [← hweigh]
  cases kind with
  | above | below | atLeast | atMost => rfl
  | _ => cases hk

theorem verdict?_numeric (hk : kind.isNumeric = true)
    (hx : Numeral.readFloat? value.toList = some x)
    (hy : Numeral.readFloat? operand.toText.toList = some y) :
    (a.asking kind operand).verdict? value true =
      some (if compare kind x y then .pass else .fail) :=
  verdict?_of_judged (evaluate_numeric hk hx hy)

section

variable (hk : kind.isNumeric = true) (hx : Numeral.readFloat? value.toList = some x)
  (hy : Numeral.readFloat? operand.toText.toList = some y) (hu : x.place? = some u)
  (hv : y.place? = some v)

include hk hx hy hu hv

/-- A comparison of two numbers on the line passes if it holds of their places, and else fails. -/
theorem verdict?_cases :
    (a.asking kind operand).verdict? value true = some .pass ∧ kind.Holds u v ∨
      (a.asking kind operand).verdict? value true = some .fail ∧ ¬kind.Holds u v := by
  rw [verdict?_numeric hk hx hy, ← compare_iff hk hu hv]
  cases compare kind x y <;> simp

theorem verdict?_eq_pass_iff :
    (a.asking kind operand).verdict? value true = some .pass ↔ kind.Holds u v := by
  obtain ⟨hverdict, hholds⟩ | ⟨hverdict, hholds⟩ := verdict?_cases (a := a) hk hx hy hu hv
  · exact iff_of_true hverdict hholds
  · refine iff_of_false ?_ hholds
    rw [hverdict]
    exact nofun

end

/-! ### Evaluations -/

/-- An evaluation has a result, which carries the value and is in error exactly if its question has
no answer, unless a pattern is at fault that is not just no regular expression; then it breaks off.
Presence and absence are opposites. Numbers compare with thresholds as their places on the line do,
so that one of two opposite comparisons passes; NaN passes none, and none of them is in error. -/
theorem evaluate_outcome (a : Assertion) (value : String) :
    (∀ found, (found = true ∧ ∃ b, a.Jams b) ∨
      ∃ r, a.evaluate value found = .ok r ∧ a.Carries value r ∧
        (r.verdict = .error ↔ a.Undecided value found)) ∧
    (∀ b, a.Jams b → a.evaluate value true = .error b) ∧
    (∀ found on off, Predicate.Operand.isOn on = true → Predicate.Operand.isOn off = true →
      (a.asking .present on).verdict? value found = some (if found then .pass else .fail) ∧
      (a.asking .absent off).verdict? value found = some (if found then .fail else .pass)) ∧
    ∀ operand x y, Numeral.readFloat? value.toList = some x →
      Numeral.readFloat? (Predicate.Operand.toText operand).toList = some y →
      let verdict kind := (a.asking kind operand).verdict? value true
      (x ≠ .nan → y ≠ .nan → ∃ u v, x.place? = some u ∧ y.place? = some v ∧
        (∀ kind, kind.isNumeric = true →
          (verdict kind = some .pass ∧ kind.Holds u v ∨
            verdict kind = some .fail ∧ ¬kind.Holds u v)) ∧
        Xor (verdict .above = some .pass) (verdict .atMost = some .pass) ∧
        Xor (verdict .below = some .pass) (verdict .atLeast = some .pass) ∧
        (verdict .atLeast = some .pass ∧ verdict .atMost = some .pass ↔ u = v)) ∧
      (x = .nan ∨ y = .nan → ∀ kind, kind.isNumeric = true → verdict kind = some .fail) := by
  refine ⟨fun found => ?_, fun b h => evaluate_eq_error_iff.2 ⟨rfl, h⟩, ?_, ?_⟩
  · cases h : a.evaluate value found with
    | error b => exact .inl ((evaluate_eq_error_iff.1 h).imp_right fun hb => ⟨b, hb⟩)
    | ok r => exact .inr ⟨r, rfl, carries_evaluate h, evaluate_verdict h⟩
  · intro found on off hon hoff
    refine ⟨verdict?_of_judged (evaluate_present hon), ?_⟩
    rw [verdict?_of_judged (evaluate_absent hoff)]
    cases found <;> rfl
  · intro operand x y hx hy verdict
    refine ⟨fun hxn hyn => ?_, fun hnan kind hk => ?_⟩
    · obtain ⟨u, hu⟩ := Binary64.exists_place hxn
      obtain ⟨v, hv⟩ := Binary64.exists_place hyn
      have hpass : ∀ kind, kind.isNumeric = true → (verdict kind = some .pass ↔ kind.Holds u v) :=
        fun kind hk => verdict?_eq_pass_iff hk hx hy hu hv
      refine ⟨u, v, hu, hv, fun kind hk => ?_, ?_, ?_, ?_⟩
      · exact verdict?_cases hk hx hy hu hv
      · rw [hpass _ rfl, hpass _ rfl]
        exact xor_iff_iff_not.2 not_le.symm
      · rw [hpass _ rfl, hpass _ rfl]
        exact xor_iff_iff_not.2 not_le.symm
      · rw [hpass _ rfl, hpass _ rfl]
        exact ⟨fun h => le_antisymm h.2 h.1, fun h => ⟨h.ge, h.le⟩⟩
    · have hverdict := verdict?_numeric (a := a) hk hx hy
      rw [compare_nan hnan] at hverdict
      exact hverdict

/-! ### A pattern with too many repetitions -/

def askRepeated : Assertion := ⟨"/interfaces", some ⟨.fits, .text "x{4294967295}"⟩, "", ""⟩

theorem jams_askRepeated : askRepeated.Jams .overflow := by
  refine .large rfl ?_
  rw [← error?_eq_some_iff]
  decide +kernel

theorem evaluate_outcome_five :
    (askRepeated.Jams .overflow ∧ askRepeated.evaluate "5" true = .error .overflow) ∧
    (askRepeated.asking .absent (.flag true)).verdict? "5" true = some .fail ∧
    Xor ((askRepeated.asking .above (.text "1e1")).verdict? "5" true = some .pass)
      ((askRepeated.asking .atMost (.text "1e1")).verdict? "5" true = some .pass) ∧
    (askRepeated.asking .atLeast (.text "nan")).verdict? "5" true = some .fail := by
  obtain ⟨-, hbreaks, hflags, hnumbers⟩ := evaluate_outcome askRepeated "5"
  have hread : Numeral.readFloat? "5".toList = some (.ofNat 5) ∧
      Numeral.readFloat? "1e1".toList = some (.ofNat 10) ∧
      Numeral.readFloat? "nan".toList = some .nan ∧
      Binary64.ofNat 5 ≠ .nan ∧ Binary64.ofNat 10 ≠ .nan := by decide +kernel
  obtain ⟨hfive, hten, hnan, hfive', hten'⟩ := hread
  obtain ⟨-, -, -, -, -, hxor, -⟩ := (hnumbers (.text "1e1") _ _ hfive hten).1 hfive' hten'
  exact ⟨⟨jams_askRepeated, hbreaks _ jams_askRepeated⟩,
    (hflags true (.flag true) (.flag true) rfl rfl).2, hxor,
    (hnumbers (.text "nan") _ _ hfive hnan).2 (.inr rfl) .atLeast rfl⟩

/-- Its evaluation does not end with an error of the assertion. -/
theorem evaluate_repeated : askRepeated.evaluate "x" true = .error .overflow ∧
    ¬∃ r, askRepeated.evaluate "x" true = .ok r ∧ r.verdict = .error := by
  have hbreaks : askRepeated.evaluate "x" true = .error .overflow :=
    evaluate_eq_error_iff.2 ⟨rfl, jams_askRepeated⟩
  refine ⟨hbreaks, ?_⟩
  rintro ⟨r, hr, -⟩
  cases hbreaks.symm.trans hr

end Assertion

end StateCheck
