import Mathlib.Algebra.Order.Ring.Nat
import Mathlib.Order.WithBot
import StateCheck.Number.Binary64

/-!
The order of double precision numbers, and that rounding keeps it: what is added to a reading of
a clock does not set it back.
-/

namespace StateCheck.Binary64

variable {x y z : Binary64} {m n : Nat}

/-! ### Order -/

theorem le_finite {s t : Bool} :
    (finite s m).le (finite t n) = true ↔ signed s m ≤ signed t n := by
  simp only [le, lt, eq, Bool.or_eq_true, decide_eq_true_eq, beq_iff_eq]
  omega

theorem le_trans (h : x.le y = true) (h' : y.le z = true) : x.le z = true := by
  cases x with
  | nan => cases h
  | infinite s =>
    cases y <;> cases z <;> simp_all [le, lt, eq]
    rcases h with ⟨rfl, rfl⟩ | rfl <;> simp_all
  | finite s m =>
    cases y <;> cases z <;> simp_all [le, lt, eq]
    omega

/-- What is not at most zero is greater or no number. -/
theorem zero_lt_of_not_le (hx : x ≠ nan) (h : x.le zero = false) : zero.lt x = true := by
  cases x <;> simp_all [le, lt, eq, zero, signed]
  omega

theorem zero_lt_min (hx : zero.lt x = true) (hy : y.le zero = false) :
    zero.lt (x.min y) = true := by
  unfold min
  split
  · next h =>
    refine zero_lt_of_not_le ?_ hy
    rintro rfl
    cases h
  · exact hx

theorem max_eq_right (h : x.lt y = true) : x.max y = y := if_pos h

/-! ### The line of numbers -/

/-- A place on the line of the counts of units, or one of its ends. -/
def Place := WithBot (WithTop Int)

-- The one order of places, whichever orders of the integers are at hand where they are compared.
instance : LinearOrder Place := (inferInstance : LinearOrder (WithBot (WithTop Int)))

section Place

variable {u v : Place}

/-- Where a number lies on the line, with the infinities at its ends; NaN lies nowhere. -/
def place? (x : Binary64) : Option Place :=
  (match x with
    | nan => none
    | infinite true => some ⊥
    | infinite false => some (⊤ : WithTop Int)
    | finite negative units => some (signed negative units : WithTop Int) :
    Option (WithBot (WithTop Int)))

theorem place?_eq_none_iff : x.place? = none ↔ x = nan := by
  cases x with
  | nan => exact iff_of_true rfl rfl
  | infinite negative => cases negative <;> exact iff_of_false nofun nofun
  | finite negative units => exact iff_of_false nofun nofun

theorem exists_place (h : x ≠ nan) : ∃ u, x.place? = some u :=
  Option.ne_none_iff_exists'.1 (place?_eq_none_iff.not.2 h)

theorem lt_iff (hx : x.place? = some u) (hy : y.place? = some v) : x.lt y = true ↔ u < v := by
  change x.lt y = true ↔ @LT.lt (WithBot (WithTop Int)) _ u v
  cases x with
  | nan => cases hx
  | infinite s =>
    cases y with
    | nan => cases hy
    | infinite t => cases s <;> cases t <;> cases hx <;> cases hy <;> simp [lt]
    | finite t n => cases s <;> cases hx <;> cases hy <;> simp [lt]
  | finite s m =>
    cases hx
    cases y with
    | nan => cases hy
    | infinite t =>
      cases t with
      | true => cases hy; simp [lt]
      | false => cases hy; exact iff_of_true rfl (WithBot.coe_lt_coe.2 (WithTop.coe_lt_top _))
    | finite t n => cases hy; simp [lt]

theorem eq_iff (hx : x.place? = some u) (hy : y.place? = some v) : x.eq y = true ↔ u = v := by
  change x.eq y = true ↔ @Eq (WithBot (WithTop Int)) u v
  cases x with
  | nan => cases hx
  | infinite s =>
    cases y with
    | nan => cases hy
    | infinite t => cases s <;> cases t <;> cases hx <;> cases hy <;> simp [eq]
    | finite t n => cases s <;> cases hx <;> cases hy <;> simp [eq]
  | finite s m =>
    cases hx
    cases y with
    | nan => cases hy
    | infinite t => cases t <;> cases hy <;> simp [eq]
    | finite t n => cases hy; simp [eq]

theorem le_iff (hx : x.place? = some u) (hy : y.place? = some v) : x.le y = true ↔ u ≤ v := by
  rw [le, Bool.or_eq_true, lt_iff hx hy, eq_iff hx hy, le_iff_lt_or_eq]

end Place

/-! ### Rounding -/

theorem le_divNearest (n d : Nat) : n / d ≤ divNearest n d := by
  unfold divNearest
  dsimp only
  split
  · exact Nat.le_refl _
  · split
    · exact Nat.le_succ _
    · exact Nat.le_add_right ..

theorem divNearest_le {q d : Nat} (h : n ≤ q * d) : divNearest n d ≤ q := by
  have hquotient : n / d ≤ q := Nat.div_le_of_le_mul (Nat.mul_comm q d ▸ h)
  unfold divNearest
  dsimp only
  by_cases hrest : n % d = 0
  · rw [hrest]
    split
    · exact hquotient
    · split
      · omega
      · next hd hd' =>
        obtain rfl : d = 0 := by omega
        simp
  · -- A rest leaves room for one more.
    have hlt : n / d < q := by
      refine Nat.lt_of_le_of_ne hquotient ?_
      rintro rfl
      have hsum := Nat.div_add_mod n d
      rw [Nat.mul_comm] at h
      omega
    split
    · exact hquotient
    · split <;> omega

theorem spacing_pos (n : Nat) : 0 < spacing n := twoTo_pos _

theorem roundUnits_one (n : Nat) : roundUnits n 1 = divNearest n (spacing n) * spacing n := by
  simp [roundUnits]

theorem le_roundUnits_of_dvd (h : spacing n ∣ m) (hm : m ≤ n) : m ≤ roundUnits n 1 := by
  obtain ⟨q, rfl⟩ := h
  rw [roundUnits_one, Nat.mul_comm]
  refine Nat.mul_le_mul_right _ (Nat.le_trans ?_ (le_divNearest n _))
  rwa [Nat.le_div_iff_mul_le (spacing_pos n), Nat.mul_comm]

theorem roundUnits_le_of_dvd (h : spacing n ∣ m) (hm : n ≤ m) : roundUnits n 1 ≤ m := by
  obtain ⟨q, rfl⟩ := h
  rw [roundUnits_one, Nat.mul_comm (spacing n)]
  exact Nat.mul_le_mul_right _ (divNearest_le (Nat.mul_comm q _ ▸ hm))

/-- A count of units that a number can have: it fits into its leading bits. -/
def Exact (m : Nat) : Prop := spacing m ∣ m

theorem spacing_dvd_pow {k : Nat} (h : m.log2 ≤ k) : spacing m ∣ 2 ^ k :=
  Nat.pow_dvd_pow 2 (by omega)

/-- Rounding does not go below an exact count. -/
theorem Exact.le_roundUnits (hm : Exact m) (h : m ≤ n) : m ≤ roundUnits n 1 := by
  by_cases hzero : m = 0
  · exact hzero ▸ Nat.zero_le _
  have hn : n ≠ 0 := by omega
  by_cases hlog : m.log2 = n.log2
  · refine le_roundUnits_of_dvd ?_ h
    rwa [spacing, ← hlog]
  · -- The greater number has more bits, so a power of two is between the two.
    have hlt : m < 2 ^ n.log2 := by
      refine (Nat.log2_lt hzero).1 (Nat.lt_of_le_of_ne ?_ hlog)
      exact (Nat.le_log2 hn).2 (Nat.le_trans (Nat.log2_self_le hzero) h)
    exact Nat.le_trans (Nat.le_of_lt hlt)
      (le_roundUnits_of_dvd (spacing_dvd_pow (Nat.le_refl _)) (Nat.log2_self_le hn))

theorem exact_roundUnits (n : Nat) : Exact (roundUnits n 1) := by
  by_cases hzero : n = 0
  · subst hzero
    exact ⟨0, by decide⟩
  have hlow : 2 ^ n.log2 ≤ roundUnits n 1 :=
    le_roundUnits_of_dvd (spacing_dvd_pow (Nat.le_refl _)) (Nat.log2_self_le hzero)
  have hhigh : roundUnits n 1 ≤ 2 ^ (n.log2 + 1) :=
    roundUnits_le_of_dvd (spacing_dvd_pow (Nat.le_succ _)) (Nat.le_of_lt Nat.lt_log2_self)
  have hpos : roundUnits n 1 ≠ 0 := by
    have hpow := Nat.two_pow_pos n.log2
    omega
  by_cases hlt : roundUnits n 1 < 2 ^ (n.log2 + 1)
  · have hlog : (roundUnits n 1).log2 = n.log2 := by
      have hle := (Nat.le_log2 hpos).2 hlow
      have hlt' := (Nat.log2_lt hpos).2 hlt
      omega
    rw [Exact, spacing, hlog, roundUnits_one]
    exact Nat.dvd_mul_left _ _
  · have hpow : roundUnits n 1 = 2 ^ (n.log2 + 1) := by omega
    rw [Exact, hpow]
    exact spacing_dvd_pow (by rw [Nat.log2_two_pow])

theorem roundUnits_pos (h : 0 < n) : 0 < roundUnits n 1 :=
  Exact.le_roundUnits (m := 1) ⟨1, by decide⟩ h

/-! ### Clocks -/

/-- What a clock can read that started at zero. -/
inductive Reading : Binary64 → Prop
  | infinite : Reading (infinite false)
  | finite {m : Nat} (h : Exact m) : Reading (finite false m)

theorem reading_zero : Reading zero := .finite ⟨0, by decide⟩

theorem reading_ofUnits (n : Nat) : Reading (ofUnits false n 1) := by
  unfold ofUnits
  dsimp only
  split
  · exact .finite (exact_roundUnits n)
  · exact .infinite

theorem le_ofUnits (hm : Exact m) (h : m ≤ n) :
    (Binary64.finite false m).le (ofUnits false n 1) = true := by
  unfold ofUnits
  dsimp only
  split
  · simpa [le_finite, signed] using hm.le_roundUnits h
  · rfl

/-- A clock that goes on for some time is not set back. -/
theorem Reading.add (hx : Reading x) (hy : zero.le y = true) :
    Reading (x.add y) ∧ x.le (x.add y) = true := by
  cases y with
  | nan => cases hy
  | infinite s =>
    cases s with
    | true => cases hy
    | false => cases hx <;> exact ⟨.infinite, rfl⟩
  | finite s k =>
    cases hx with
    | infinite => exact ⟨.infinite, rfl⟩
    | @finite m hm =>
      have hsigned : 0 ≤ signed s k := by simpa [zero, le_finite, signed] using hy
      obtain ⟨k', hk⟩ := Int.eq_ofNat_of_zero_le hsigned
      have hsum : signed false m + signed s k = ((m + k' : Nat) : Int) := by
        rw [hk]
        rfl
      simp only [Binary64.add, hsum]
      split
      · next h =>
        obtain rfl : m = 0 := by omega
        exact ⟨.finite hm, by simp [le_finite, signed]⟩
      · have hneg : decide (((m + k' : Nat) : Int) < 0) = false := by
          simp only [decide_eq_false_iff_not]
          omega
        rw [hneg, Int.natAbs_natCast]
        exact ⟨reading_ofUnits _, le_ofUnits hm (Nat.le_add_right ..)⟩

theorem ofUnits_le_zero_iff {negative : Bool} (h : 0 < n) :
    (ofUnits negative n 1).le zero = true ↔ negative = true := by
  have hpos := roundUnits_pos h
  unfold ofUnits
  dsimp only
  split
  · cases negative <;> simp [zero, le_finite, signed]
    omega
  · cases negative <;> simp [le, lt, eq, zero]

/-- Nothing is left before a point in time exactly if the clock has come to it. -/
theorem Reading.sub_le_zero_iff (hy : Reading y) :
    (x.sub y).le zero = true ↔ x.lt (.infinite false) = true ∧ x.le y = true := by
  cases x with
  | nan => simp [sub, Binary64.add, le, lt, eq]
  | infinite s => cases hy <;> cases s <;> simp [sub, neg, Binary64.add, le, lt, eq, zero]
  | finite s m =>
    cases hy with
    | infinite => simp [sub, neg, Binary64.add, le, lt, zero]
    | @finite k hk =>
      have hle : (Binary64.finite s m).le (.finite false k) = true ↔ signed s m ≤ k := by
        simp [le_finite, signed]
      have hdiff : signed s m + signed true k = signed s m - k := Int.sub_eq_add_neg.symm
      simp only [sub, neg, Binary64.add, hdiff, hle, lt, Bool.not_false, true_and]
      split
      · next h => exact iff_of_true (by simp [le_finite, zero, signed]) (by omega)
      · next h =>
        rw [ofUnits_le_zero_iff (Int.natAbs_pos.2 h), decide_eq_true_eq]
        omega

/-- What a clock has come to it stays behind. -/
theorem Reading.sub_le_zero_of_add {d : Binary64} (hx : Reading x) (hy : zero.le y = true)
    (h : (d.sub x).le zero = true) : (d.sub (x.add y)).le zero = true := by
  obtain ⟨hadd, hle⟩ := hx.add hy
  obtain ⟨hfinite, hd⟩ := hx.sub_le_zero_iff.1 h
  exact hadd.sub_le_zero_iff.2 ⟨hfinite, le_trans hd hle⟩

end StateCheck.Binary64
