import Mathlib.Data.List.TakeWhile
import StateCheck.Json.Writer
import StateCheck.Proofs.Json.Grammar
import StateCheck.Proofs.Number.Reading

/-!
Numbers of JSON texts: where a number of the grammar is not followed by anything that could be part
of it, just that number is read, and whole numbers are written as the grammar has them.
-/

namespace StateCheck.Json

open StateCheck.Text

variable {cs rest ds w p e s : List Char} {c : Char} {v : Value} {negative : Bool}
  {places : Option (List Char)} {power : Option Int}

/-- Nothing at the front could be a further part of a number. -/
def Stops (rest : List Char) : Prop :=
  ∀ c ∈ rest.head?, isDigit c = false ∧ c ≠ '.' ∧ c ≠ 'e' ∧ c ≠ 'E'

/-! ### Digits -/

theorem takeWhile_stop (hds : ∀ c ∈ ds, isDigit c = true)
    (hrest : ∀ c ∈ rest.head?, isDigit c = false) :
    (ds ++ rest).takeWhile isDigit = ds ∧ (ds ++ rest).dropWhile isDigit = rest := by
  rw [List.takeWhile_append_of_pos hds, List.dropWhile_append_of_pos hds]
  cases rest with
  | nil => simp
  | cons c rest => simp [hrest c rfl]

theorem digits_takeWhile (h : cs.takeWhile isDigit ≠ []) : Digits (cs.takeWhile isDigit) :=
  ⟨h, fun _ hc => List.mem_takeWhile_imp hc⟩

theorem Digits.exists_cons (h : Digits ds) : ∃ d ds', ds = d :: ds' ∧ isDigit d = true := by
  obtain ⟨hne, hds⟩ := h
  obtain ⟨d, ds', rfl⟩ := List.exists_cons_of_ne_nil hne
  exact ⟨d, ds', rfl, hds d List.mem_cons_self⟩

theorem ne_of_isDigit {d : Char} (hd : isDigit d = true) (hc : isDigit c = false) : d ≠ c := by
  rintro rfl
  rw [hd] at hc
  cases hc

/-! ### The parts of a number -/

theorem Whole.digits_whole (h : Whole ds) : Digits ds := by
  cases h with
  | zero => exact ⟨by simp, by simp [isDigit]⟩
  | digits h => exact h

theorem takeWhole_of_whole (h : Whole ds) (hrest : ∀ c ∈ rest.head?, isDigit c = false) :
    takeWhole (ds ++ rest) = some (ds, rest) := by
  cases h with
  | zero => rfl
  | digits h hfirst =>
    obtain ⟨htake, hdrop⟩ := takeWhile_stop h.2 hrest
    obtain ⟨d, ds', rfl, -⟩ := h.exists_cons
    unfold takeWhole
    split
    · next heq =>
      rw [(List.cons.inj heq).1] at hfirst
      exact absurd rfl hfirst
    · rw [htake, hdrop]

theorem whole_of_takeWhole (h : takeWhole cs = some (ds, rest)) : cs = ds ++ rest ∧ Whole ds := by
  unfold takeWhole at h
  split at h
  · cases h
    exact ⟨rfl, .zero⟩
  · next hzero =>
    split at h
    · cases h
    · next hne =>
      cases h
      refine ⟨List.takeWhile_append_dropWhile.symm, .digits (digits_takeWhile hne) ?_⟩
      intro hfirst
      obtain ⟨ds, hds⟩ := List.head?_eq_some_iff.1 hfirst
      exact hzero _ (by rw [← List.takeWhile_append_dropWhile (p := isDigit) (l := cs), hds]; rfl)

theorem takePlaces_of_places (h : Places p places)
    (hrest : ∀ c ∈ rest.head?, isDigit c = false ∧ c ≠ '.') :
    takePlaces (p ++ rest) = (places, rest) := by
  cases h with
  | absent =>
    rw [List.nil_append]
    unfold takePlaces
    split
    · exact absurd rfl (hrest _ rfl).2
    · rfl
  | present h =>
    obtain ⟨htake, hdrop⟩ := takeWhile_stop h.2 fun c hc => (hrest c hc).1
    obtain ⟨d, ds', rfl, hd⟩ := h.exists_cons
    simp only [List.cons_append, takePlaces] at *
    rw [if_pos hd, htake, hdrop]

theorem places_takePlaces (cs : List Char) :
    ∃ p, cs = p ++ (takePlaces cs).2 ∧ Places p (takePlaces cs).1 := by
  unfold takePlaces
  split
  · next d cs =>
    by_cases hd : isDigit d = true
    · rw [if_pos hd]
      refine ⟨'.' :: (d :: cs).takeWhile isDigit, ?_, .present (digits_takeWhile ?_)⟩
      · rw [List.cons_append, List.takeWhile_append_dropWhile]
      · simp [hd]
    · rw [if_neg hd]
      exact ⟨[], rfl, .absent⟩
  · exact ⟨[], rfl, .absent⟩

theorem takeSign_of_sign (h : Sign s negative) (hrest : ∀ c ∈ rest.head?, isDigit c = true) :
    Numeral.takeSign (s ++ rest) = (negative, rest) := by
  cases h with
  | absent =>
    rw [List.nil_append]
    unfold Numeral.takeSign
    split
    · exact absurd (hrest _ rfl) (by decide)
    · exact absurd (hrest _ rfl) (by decide)
    · rfl
  | plus => rfl
  | minus => rfl

theorem sign_takeSign (cs : List Char) :
    ∃ s, cs = s ++ (Numeral.takeSign cs).2 ∧ Sign s (Numeral.takeSign cs).1 := by
  unfold Numeral.takeSign
  split
  · exact ⟨['-'], rfl, .minus⟩
  · exact ⟨['+'], rfl, .plus⟩
  · exact ⟨[], rfl, .absent⟩

theorem takePower_of_power (h : Power e power) (hrest : Stops rest) :
    takePower (e ++ rest) = (power, rest) := by
  cases h with
  | absent =>
    cases rest with
    | nil => rfl
    | cons c rest =>
      obtain ⟨-, -, he, hE⟩ := hrest c rfl
      rw [List.nil_append, takePower, if_neg (by simp [he, hE])]
  | @present e s ds negative he hs h =>
    obtain ⟨htake, hdrop⟩ := takeWhile_stop h.2 fun c hc => (hrest c hc).1
    obtain ⟨d, ds', rfl, hd⟩ := h.exists_cons
    have hsign : Numeral.takeSign (s ++ (d :: ds' ++ rest)) = (negative, d :: ds' ++ rest) :=
      takeSign_of_sign hs fun c hc => by cases hc; exact hd
    rw [List.cons_append, List.append_assoc, takePower, if_pos he, hsign]
    dsimp only
    rw [htake, hdrop]
    rfl

theorem power_takePower (cs : List Char) :
    ∃ e, cs = e ++ (takePower cs).2 ∧ Power e (takePower cs).1 := by
  cases cs with
  | nil => exact ⟨[], rfl, .absent⟩
  | cons e cs =>
    rw [takePower]
    by_cases he : e = 'e' ∨ e = 'E'
    · obtain ⟨s, hs, hsign⟩ := sign_takeSign cs
      rw [if_pos he]
      dsimp only
      split
      · exact ⟨[], rfl, .absent⟩
      · next hne =>
        refine ⟨_, ?_, .present he hsign (digits_takeWhile hne)⟩
        rw [List.cons_append, List.append_assoc, List.takeWhile_append_dropWhile, ← hs]
    · rw [if_neg he]
      exact ⟨[], rfl, .absent⟩

/-! ### Numbers -/

theorem Power.stops (h : Power e power) (hrest : Stops rest) :
    ∀ c ∈ (e ++ rest).head?, isDigit c = false ∧ c ≠ '.' := by
  cases h with
  | absent => exact fun c hc => ⟨(hrest c hc).1, (hrest c hc).2.1⟩
  | present he =>
    intro c hc
    cases hc
    rcases he with rfl | rfl <;> decide

theorem Places.stops (h : Places p places)
    (hrest : ∀ c ∈ rest.head?, isDigit c = false ∧ c ≠ '.') :
    ∀ c ∈ (p ++ rest).head?, isDigit c = false := by
  cases h with
  | absent => exact fun c hc => (hrest c hc).1
  | present =>
    intro c hc
    cases hc
    decide

theorem readMagnitude_of_magnitude (h : Magnitude negative w v) (hrest : Stops rest) :
    readMagnitude negative (w ++ rest) = some (v, rest) := by
  cases h with
  | whole h hlimit =>
    have hplaces := takePlaces_of_places .absent (Power.absent.stops hrest)
    have hpower := takePower_of_power .absent hrest
    simp only [List.nil_append] at hplaces hpower
    rw [readMagnitude, takeWhole_of_whole h fun c hc => (hrest c hc).1]
    dsimp only [Option.bind_eq_bind, Option.bind_some]
    rw [hplaces]
    dsimp only
    rw [hpower]
    dsimp only
    rw [if_neg (Nat.not_lt.2 hlimit)]
    rfl
  | @fraction ds p e places power h hp he hsome =>
    have hfollow := he.stops hrest
    rw [List.append_assoc, List.append_assoc, readMagnitude,
      takeWhole_of_whole h (hp.stops hfollow)]
    dsimp only [Option.bind_eq_bind, Option.bind_some]
    rw [takePlaces_of_places hp hfollow]
    dsimp only
    rw [takePower_of_power he hrest]
    dsimp only
    split
    · exact absurd hsome (by simp)
    · rfl

theorem magnitude_of_readMagnitude (h : readMagnitude negative cs = some (v, rest)) :
    ∃ w, cs = w ++ rest ∧ Magnitude negative w v := by
  rw [readMagnitude] at h
  obtain ⟨⟨ds, behind⟩, hwhole, hvalue⟩ := Option.bind_eq_some_iff.1 h
  obtain ⟨rfl, hds⟩ := whole_of_takeWhole hwhole
  obtain ⟨p, hp, hplaces⟩ := places_takePlaces behind
  obtain ⟨e, he, hpower⟩ := power_takePower (takePlaces behind).2
  have htext : ds ++ behind = ds ++ (p ++ e) ++ (takePower (takePlaces behind).2).2 := by
    rw [List.append_assoc, List.append_assoc, ← he, ← hp]
  dsimp only at hvalue
  split at hvalue
  · next hnoPlaces hnoPower =>
    split at hvalue
    · cases hvalue
    · next hlimit =>
      cases hvalue
      rw [hnoPlaces] at hplaces
      rw [hnoPower] at hpower
      cases hplaces
      cases hpower
      rw [List.append_nil, List.append_nil] at htext
      exact ⟨ds, htext, .whole hds (Nat.not_lt.1 hlimit)⟩
  · next hsome =>
    cases hvalue
    refine ⟨_, htext, .fraction hds hplaces hpower ?_⟩
    exact not_and_or.1 fun hnone => hsome hnone.1 hnone.2

theorem Magnitude.exists_cons (h : Magnitude negative w v) :
    ∃ d w', w = d :: w' ∧ isDigit d = true := by
  cases h with
  | whole h => exact h.digits_whole.exists_cons
  | fraction h =>
    obtain ⟨d, ds', rfl, hd⟩ := h.digits_whole.exists_cons
    exact ⟨d, _, rfl, hd⟩

/-- A number begins with a digit or a minus. -/
theorem Number.exists_cons (h : Number w v) :
    ∃ d w', w = d :: w' ∧ (isDigit d = true ∨ d = '-') := by
  cases h with
  | positive h =>
    obtain ⟨d, w', rfl, hd⟩ := h.exists_cons
    exact ⟨d, w', rfl, .inl hd⟩
  | negative => exact ⟨_, _, rfl, .inr rfl⟩
  | infinite => exact ⟨_, _, rfl, .inr rfl⟩

theorem readNumber_of_number (h : Number w v) (hrest : Stops rest) :
    readNumber (w ++ rest) = some (v, rest) := by
  cases h with
  | positive h =>
    have hread := readMagnitude_of_magnitude h hrest
    obtain ⟨d, w', rfl, hd⟩ := h.exists_cons
    unfold readNumber
    split
    · next heq =>
      rw [(List.cons.inj heq).1] at hd
      exact absurd hd (by decide)
    · next heq =>
      rw [(List.cons.inj heq).1] at hd
      exact absurd hd (by decide)
    · exact hread
  | @negative w v h =>
    have hread := readMagnitude_of_magnitude h hrest
    obtain ⟨d, w', rfl, hd⟩ := h.exists_cons
    unfold readNumber
    split
    · next heq =>
      simp only [List.cons_append, List.cons.injEq, true_and] at heq
      rw [heq.1] at hd
      exact absurd hd (by decide)
    · next heq =>
      rw [← (List.cons.inj heq).2]
      exact hread
    · next hother => exact absurd rfl (hother _)
  | infinite => rfl

theorem number_of_readNumber (h : readNumber cs = some (v, rest)) :
    ∃ w, cs = w ++ rest ∧ Number w v := by
  unfold readNumber at h
  split at h
  · cases h
    exact ⟨_, rfl, .infinite⟩
  · obtain ⟨w, rfl, hw⟩ := magnitude_of_readMagnitude h
    exact ⟨'-' :: w, rfl, .negative hw⟩
  · obtain ⟨w, rfl, hw⟩ := magnitude_of_readMagnitude h
    exact ⟨w, rfl, .positive hw⟩

/-! ### Writing -/

theorem isDigit_digitChar : ∀ d < 10, isDigit (digitChar d) = true ∧
    (digitChar d).toNat - 48 = d ∧ (digitChar d = '0' → d = 0) := by decide

/-- No number but zero is written with a zero at the front. -/
theorem head_decimal {n : Nat} (hn : n ≠ 0) : (decimal n).head? ≠ some '0' := by
  fun_induction decimal n with
  | case1 n hlt =>
    intro hzero
    exact hn ((isDigit_digitChar n hlt).2.2 (Option.some.inj hzero))
  | case2 n hge ih =>
    obtain ⟨c, cs, hquotient⟩ := List.exists_cons_of_ne_nil (decimal_ne_nil (n / 10))
    rw [hquotient] at ih ⊢
    exact ih (by omega)

theorem wholeNumber_decimal (negative : Bool) (n : Nat) :
    wholeNumber negative (decimal n) = if negative then -(n : Int) else n := by
  obtain ⟨ds, -, hds, hdecimal, hvalue⟩ := exists_digits n
  have hdigits : digitsOf (ds.map digitChar) = ds := by
    rw [digitsOf, List.map_map]
    exact (List.map_congr_left fun d hd => (isDigit_digitChar d (hds d hd)).2.1).trans ds.map_id
  rw [wholeNumber, hdecimal, hdigits, hvalue]

theorem whole_decimal (n : Nat) : Whole (decimal n) := by
  by_cases hn : n = 0
  · subst hn
    rw [decimal, if_pos (by decide)]
    exact .zero
  · refine .digits ⟨decimal_ne_nil n, fun c hc => ?_⟩ (head_decimal hn)
    obtain ⟨ds, -, hds, hdecimal, -⟩ := exists_digits n
    rw [hdecimal] at hc
    obtain ⟨d, hd, rfl⟩ := List.mem_map.1 hc
    exact (isDigit_digitChar d (hds d hd)).1

theorem length_decimal_le_of_lt {n k : Nat} (h : n < tenTo k) (hk : 0 < k) :
    (decimal n).length ≤ k := length_decimal_le h hk

theorem number_decimalInt {i : Int} (h : i.natAbs < tenTo Numeral.digitLimit) :
    Number (decimalInt i) (.int i) := by
  have hmagnitude (negative : Bool) : Magnitude negative (decimal i.natAbs)
      (.int (if negative then -(i.natAbs : Int) else i.natAbs)) := by
    rw [← wholeNumber_decimal]
    exact .whole (whole_decimal _) (length_decimal_le_of_lt h (by decide))
  cases i with
  | ofNat n => exact .positive (hmagnitude false)
  | negSucc n => exact .negative (hmagnitude true)

end StateCheck.Json
