import Mathlib.Algebra.GroupWithZero.Nat
import StateCheck.Number.Reading

/-!
Whole numbers that are written in base ten and read again.
-/

namespace StateCheck

namespace Text

variable {n : Nat} {c : Char}

/-- What readers ask of the character of a digit. -/
theorem digitChar_facts : ∀ d < 10, digitValue? (digitChar d) = some d ∧
    Numeral.isMargin (digitChar d) = false ∧ (digitChar d).isDigit = true := by decide

/-- Decimal digits and the number that they spell. -/
theorem exists_digits (n : Nat) : ∃ ds, ds ≠ [] ∧ (∀ d ∈ ds, d < 10) ∧
    decimal n = ds.map digitChar ∧ Numeral.ofDigits 10 ds = n := by
  fun_induction decimal n with
  | case1 n hlt => exact ⟨[n], by simp, by simpa using hlt, rfl, by simp [Numeral.ofDigits]⟩
  | case2 n hge ih =>
    obtain ⟨ds, -, hds, hdecimal, hvalue⟩ := ih
    have hlast : n % 10 < 10 := Nat.mod_lt _ (by decide)
    refine ⟨ds ++ [n % 10], by simp, ?_, by simp [hdecimal], ?_⟩
    · exact List.forall_mem_append.2 ⟨hds, List.forall_mem_singleton.2 hlast⟩
    · rw [Numeral.ofDigits] at hvalue ⊢
      rw [List.foldl_append, hvalue]
      simp only [List.foldl_cons, List.foldl_nil]
      omega

theorem isDigit_of_mem_decimal (h : c ∈ decimal n) : c.isDigit = true := by
  obtain ⟨ds, -, hds, hdecimal, -⟩ := exists_digits n
  rw [hdecimal] at h
  obtain ⟨d, hd, rfl⟩ := List.mem_map.1 h
  exact (digitChar_facts d (hds d hd)).2.2

theorem decimal_ne_nil (n : Nat) : decimal n ≠ [] := by
  obtain ⟨ds, hne, -, hdecimal, -⟩ := exists_digits n
  rw [hdecimal]
  simpa using hne

theorem length_decimal_le {k : Nat} (h : n < 10 ^ k) (hk : 0 < k) : (decimal n).length ≤ k := by
  induction k generalizing n with
  | zero => cases hk
  | succ k ih =>
    rw [decimal]
    split
    · simp
    · next hge =>
      cases k with
      | zero => omega
      | succ k =>
        have hquotient : n / 10 < 10 ^ (k + 1) := by
          rw [Nat.pow_succ] at h
          omega
        simpa using ih hquotient (Nat.succ_pos k)

theorem trimWhile_eq_self {p : Char → Bool} {cs : List Char} (hfirst : ∀ c ∈ cs.head?, p c = false)
    (hlast : ∀ c ∈ cs.getLast?, p c = false) : trimWhile p cs = cs := by
  have hdrop {cs : List Char} (h : ∀ c ∈ cs.head?, p c = false) : cs.dropWhile p = cs := by
    cases cs with
    | nil => rfl
    | cons c cs => simp [h c rfl]
  rw [trimWhile, dropRightWhile, hdrop hfirst, hdrop (by simpa using hlast), List.reverse_reverse]

end Text

namespace Numeral

open Text

variable {n : Nat} {ds : List Nat}

theorem takeDigits_map (h : ∀ d ∈ ds, d < 10) : takeDigits (ds.map digitChar) = (ds, []) := by
  induction ds with
  | nil => rfl
  | cons d ds ih =>
    obtain ⟨hd, hds⟩ := List.forall_mem_cons.1 h
    have hvalue := (digitChar_facts d hd).1
    have hrest := ih hds
    cases ds with
    | nil => simp [takeDigits, hvalue]
    | cons d' ds =>
      -- The next character is a digit, so it is no underscore.
      have hnext : digitChar d' ≠ '_' := by
        intro heq
        have hdigit := (digitChar_facts d' (hds d' List.mem_cons_self)).2.2
        rw [heq] at hdigit
        exact absurd hdigit (by decide)
      rw [List.map_cons, List.map_cons] at *
      rw [takeDigits, hvalue]
      dsimp only
      split
      · next heq => exact absurd (List.cons.inj heq).1 hnext
      · rw [hrest]

theorem takeSign_of_isDigit {c : Char} {cs : List Char} (h : c.isDigit = true) :
    takeSign (c :: cs) = (false, c :: cs) := by
  unfold takeSign
  split
  · next heq =>
    rw [(List.cons.inj heq).1] at h
    exact absurd h (by decide)
  · next heq =>
    rw [(List.cons.inj heq).1] at h
    exact absurd h (by decide)
  · rfl

/-- A number with no more digits than are read is read from its decimal text. -/
theorem readInt?_decimal (h : (decimal n).length ≤ digitLimit) : readInt? (decimal n) = some n := by
  obtain ⟨ds, hne, hds, hdecimal, hvalue⟩ := exists_digits n
  have hmargin : ∀ c ∈ ds.map digitChar, isMargin c = false := by
    intro c hc
    obtain ⟨d, hd, rfl⟩ := List.mem_map.1 hc
    exact (digitChar_facts d (hds d hd)).2.1
  have htrim : trimWhile isMargin (ds.map digitChar) = ds.map digitChar :=
    trimWhile_eq_self (fun c hc => hmargin c (List.mem_of_mem_head? hc))
      (fun c hc => hmargin c (List.mem_of_mem_getLast? hc))
  have hsign : takeSign (ds.map digitChar) = (false, ds.map digitChar) := by
    cases ds with
    | nil => exact absurd rfl hne
    | cons d ds => exact takeSign_of_isDigit (digitChar_facts d (hds d List.mem_cons_self)).2.2
  rw [hdecimal, List.length_map] at h
  rw [hdecimal, readInt?, htrim, hsign]
  dsimp only
  rw [takeDigits_map hds]
  cases ds with
  | nil => exact absurd rfl hne
  | cons d ds =>
    dsimp only
    rw [if_neg (Nat.not_lt.2 h), hvalue]
    rfl

end Numeral

end StateCheck
