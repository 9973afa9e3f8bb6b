import Mathlib.Data.List.Basic
import StateCheck.Proofs.Json.Texts

/-!
How far the text of a JSON value reaches: a string takes two characters more than it has, and
nothing but a string begins or ends with a quote.
-/

namespace StateCheck.Json

variable {cs ds p e s text w : List Char} {v : Value} {negative : Bool}
  {places : Option (List Char)} {power : Option Int}

/-! ### Lengths -/

/-- No character takes less than itself between quotes. -/
theorem Quoted.length_le (h : Quoted cs text) : text.length ≤ cs.length := by
  induction h with
  | nil => exact Nat.le_refl _
  | plain _ _ _ _ ih => exact Nat.succ_le_succ ih
  | escape | unit | pair =>
    simp only [List.length_cons, List.length_append]
    omega

/-- The text of a string is longer than the string. -/
theorem length_lt_of_read? {s : String} (h : read? cs = some (.string s)) :
    s.toList.length < cs.length := by
  cases read?_eq_some_iff.1 h with
  | element _ hw _ =>
    cases hw with
    | number h => cases h <;> contradiction
    | string hq =>
      have hlength := hq.length_le
      simp only [String.toList_ofList, List.length_append, List.length_cons]
      omega

/-! ### Quotes -/

theorem Digits.not_mem_quote (h : Digits ds) : '"' ∉ ds :=
  fun hm => absurd (h.2 _ hm) (by decide)

theorem Places.not_mem_quote (h : Places p places) : '"' ∉ p := by
  cases h with
  | absent => exact List.not_mem_nil
  | present h => simp [h.not_mem_quote]

theorem Power.not_mem_quote (h : Power e power) : '"' ∉ e := by
  cases h with
  | absent => exact List.not_mem_nil
  | @present e _ _ _ he hs h =>
    have hletter : '"' ≠ e := by
      rintro rfl
      exact absurd he (by decide)
    cases hs <;> simp [hletter, h.not_mem_quote]

theorem Magnitude.not_mem_quote (h : Magnitude negative w v) : '"' ∉ w := by
  cases h with
  | whole h => exact h.digits_whole.not_mem_quote
  | fraction h hp he =>
    simp [h.digits_whole.not_mem_quote, hp.not_mem_quote, he.not_mem_quote]

theorem Number.not_mem_quote (h : Number w v) : '"' ∉ w := by
  cases h with
  | positive h => exact h.not_mem_quote
  | negative h => simp [h.not_mem_quote]
  | infinite => simp

theorem Gap.not_mem_quote (h : Gap s) : '"' ∉ s := fun hm => absurd (h _ hm) (by decide)

theorem Spells.ends (h : Spells w (.value v)) (hv : ∀ s, v ≠ .string s) :
    w.head? ≠ some '"' ∧ w.getLast? ≠ some '"' := by
  cases h with
  | number h =>
    exact ⟨fun hm => h.not_mem_quote (List.mem_of_mem_head? hm),
      fun hm => h.not_mem_quote (List.mem_of_mem_getLast? hm)⟩
  | string => exact absurd rfl (hv _)
  | emptyArray | array | emptyObject | object =>
    refine ⟨by simp, ?_⟩
    rw [← List.cons_append, List.getLast?_concat]
    simp
  | _ => simp

/-- The text of a value that is no string has a quote at neither end. -/
theorem ends_of_read? (h : read? cs = some v) (hv : ∀ s, v ≠ .string s) :
    (∀ c ∈ cs.head?, c ≠ '"') ∧ ∀ c ∈ cs.getLast?, c ≠ '"' := by
  cases read?_eq_some_iff.1 h with
  | @element s w t _ hs hw ht =>
    obtain ⟨hfirst, hlast⟩ := hw.ends hv
    obtain ⟨c, w', rfl, -⟩ := hw.exists_cons
    constructor
    · rintro c hc rfl
      cases s with
      | nil => exact hfirst hc
      | cons d s => exact hs.not_mem_quote (List.mem_of_mem_head? hc)
    · rintro c hc rfl
      rw [List.getLast?_append_of_ne_nil _ (by simp)] at hc
      rcases List.eq_nil_or_concat t with rfl | ⟨t, d, rfl⟩
      · rw [List.append_nil] at hc
        exact hlast hc
      · rw [List.concat_eq_append] at ht hc
        rw [List.getLast?_append_of_ne_nil _ (by simp)] at hc
        exact ht.not_mem_quote (List.mem_of_mem_getLast? hc)

end StateCheck.Json
