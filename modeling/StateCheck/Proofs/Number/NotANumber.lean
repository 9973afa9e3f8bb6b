import StateCheck.Proofs.Number.Order
import StateCheck.Proofs.Number.Reading
import StateCheck.Proofs.Text.Lines

/-!
Numbers that are none: the texts that are read as one, and the products that are one.
-/

namespace StateCheck

namespace Text

variable {p : Char → Bool} {cs before w after : List Char}

/-- What is cut off a text at its ends. -/
theorem exists_trimWhile (p : Char → Bool) (cs : List Char) :
    ∃ before after, cs = before ++ (trimWhile p cs ++ after) ∧ ∀ c ∈ before ++ after, p c = true := by
  refine ⟨cs.takeWhile p, ((cs.dropWhile p).reverse.takeWhile p).reverse, ?_, ?_⟩
  · rw [trimWhile, dropRightWhile, ← List.reverse_append, List.takeWhile_append_dropWhile,
      List.reverse_reverse, List.takeWhile_append_dropWhile]
  · intro c hc
    rcases List.mem_append.1 hc with hc | hc
    · exact List.mem_takeWhile_imp hc
    · exact List.mem_takeWhile_imp (List.mem_reverse.1 hc)

theorem trimWhile_append (hbefore : ∀ c ∈ before, p c = true) (hafter : ∀ c ∈ after, p c = true)
    (hne : w ≠ []) (hw : ∀ c ∈ w, p c = false) : trimWhile p (before ++ (w ++ after)) = w := by
  have hself : trimWhile p w = w := trimWhile_eq_self
    (fun c hc => hw c (List.mem_of_mem_head? hc)) (fun c hc => hw c (List.mem_of_mem_getLast? hc))
  obtain ⟨c, w, rfl⟩ := List.exists_cons_of_ne_nil hne
  have hc : ¬p c = true := by simp [hw c List.mem_cons_self]
  rw [trimWhile, List.dropWhile_cons_of_neg hc] at hself
  rw [trimWhile, List.dropWhile_append_of_pos hbefore, List.cons_append,
    List.dropWhile_cons_of_neg hc, ← List.cons_append, dropRightWhile_append hafter, hself]

end Text

namespace Binary64

variable {x y : Binary64} {n d : Nat} {negative : Bool}

theorem not_le_zero_iff : x.le zero = false ↔ zero.lt x = true ∨ x = nan := by
  constructor
  · intro h
    by_cases hx : x = nan
    · exact .inr hx
    · exact .inl (zero_lt_of_not_le hx h)
  · rintro (h | rfl)
    · cases x <;> simp_all [le, lt, eq, zero, signed]
      omega
    · rfl

theorem ofUnits_ne_nan : ofUnits negative n d ≠ nan := by
  unfold ofUnits
  dsimp only
  split <;> exact nofun

theorem ofScientific_ne_nan {e : Int} : ofScientific negative n e ≠ nan := by
  unfold ofScientific
  split <;> exact ofUnits_ne_nan

/-- A positive number that is not infinite. -/
theorem exists_of_lt (h : zero.lt y = true) (h' : y.lt (infinite false) = true) :
    ∃ n, y = finite false n ∧ n ≠ 0 := by
  cases y with
  | nan => cases h
  | infinite s =>
    cases s with
    | false => cases h'
    | true => cases h
  | finite s n =>
    have hpos : 0 < signed s n := by simpa [lt, zero, signed] using h
    cases s with
    | false => exact ⟨n, rfl, by simpa [signed, Nat.pos_iff_ne_zero] using hpos⟩
    | true =>
      have hle : signed true n ≤ 0 := by simp [signed]
      omega

theorem mul_eq_nan_iff (h : zero.lt y = true) (h' : y.lt (infinite false) = true) :
    x.mul y = nan ↔ x = nan := by
  obtain ⟨n, rfl, hn⟩ := exists_of_lt h h'
  cases x with
  | nan => exact iff_of_true rfl rfl
  | infinite s =>
    have hmul : (infinite s).mul (finite false n) = infinite (s != false) := if_neg hn
    rw [hmul]
    exact iff_of_false nofun nofun
  | finite s m =>
    have hmul : (finite s m).mul (finite false n) = ofUnits (s != false) (m * n) unitsPerOne := by
      rw [mul]
    rw [hmul]
    exact iff_of_false ofUnits_ne_nan nofun

end Binary64

namespace Numeral

open Text

variable {c : Char} {cs w sign : List Char}

/-- The text spells `nan` in any case, perhaps with a sign in front and blanks around it. -/
def SpellsNaN (cs : List Char) : Prop :=
  ∃ before sign word after, cs = before ++ (sign ++ word ++ after) ∧
    (∀ c ∈ before ++ after, isMargin c = true) ∧ sign ∈ [[], ['+'], ['-']] ∧
    word.map Char.toLower = ['n', 'a', 'n']

theorem scale_ne_nan {negative : Bool} {ds : List Nat} {e : Int} : scale negative ds e ≠ .nan := by
  unfold scale
  dsimp only
  split
  · exact nofun
  · split
    · exact nofun
    · exact Binary64.ofScientific_ne_nan

theorem readDecimal?_ne_nan {negative : Bool} : readDecimal? negative cs ≠ some .nan := by
  unfold readDecimal?
  dsimp only
  split
  all_goals
    split
    · exact nofun
    · intro h
      obtain ⟨e, -, hscale⟩ := Option.map_eq_some_iff.1 h
      exact scale_ne_nan hscale

theorem exists_sign (cs : List Char) :
    ∃ sign ∈ [[], ['+'], ['-']], cs = sign ++ (takeSign cs).2 := by
  unfold takeSign
  split
  · exact ⟨['-'], by simp, rfl⟩
  · exact ⟨['+'], by simp, rfl⟩
  · exact ⟨[], by simp, rfl⟩

theorem takeSign_append (hsign : sign ∈ [[], ['+'], ['-']])
    (h : ∀ c ∈ w.head?, c ≠ '-' ∧ c ≠ '+') : (takeSign (sign ++ w)).2 = w := by
  simp only [List.mem_cons, List.not_mem_nil, or_false] at hsign
  obtain rfl | rfl | rfl := hsign
  · rw [List.nil_append]
    unfold takeSign
    split
    · exact absurd rfl (h '-' rfl).1
    · exact absurd rfl (h '+' rfl).2
    · rfl
  · rfl
  · rfl

/-- No blank is a letter. -/
theorem toLower_of_isMargin (h : isMargin c = true) : c.toLower = c := by
  have hblank : isBlank c = true := (Bool.and_eq_true_iff.1 h).1
  have hupper : ¬('A'.val ≤ c.val ∧ c.val ≤ 'Z'.val) := by
    rw [UInt32.le_iff_toNat_le, UInt32.le_iff_toNat_le]
    change ¬(65 ≤ c.toNat ∧ c.toNat ≤ 90)
    simp only [isBlank, Bool.or_eq_true, Bool.and_eq_true, decide_eq_true_eq, beq_iff_eq] at hblank
    omega
  exact dif_neg hupper

theorem isMargin_of_toLower (h : c.toLower = 'n' ∨ c.toLower = 'a') : isMargin c = false := by
  by_contra hmargin
  rw [Bool.not_eq_false] at hmargin
  rw [toLower_of_isMargin hmargin] at h
  obtain rfl | rfl := h
  · exact absurd hmargin (by decide)
  · exact absurd hmargin (by decide)

theorem isMargin_of_mem_sign (hsign : sign ∈ [[], ['+'], ['-']]) (hc : c ∈ sign) :
    isMargin c = false := by
  simp only [List.mem_cons, List.not_mem_nil, or_false] at hsign
  obtain rfl | rfl | rfl := hsign
  · cases hc
  · exact List.mem_singleton.1 hc ▸ by decide
  · exact List.mem_singleton.1 hc ▸ by decide

theorem readFloat?_eq_nan_iff : readFloat? cs = some .nan ↔ SpellsNaN cs := by
  constructor
  · intro h
    obtain ⟨before, after, hcs, hmargin⟩ := exists_trimWhile isMargin cs
    obtain ⟨sign, hsign, hrest⟩ := exists_sign (trimWhile isMargin cs)
    refine ⟨before, sign, (takeSign (trimWhile isMargin cs)).2, after, ?_, hmargin, hsign, ?_⟩
    · rwa [← hrest]
    · unfold readFloat? at h
      dsimp only at h
      split at h
      · cases h
      · cases h
      · next hword => exact String.ofList_injective hword
      · exact absurd h readDecimal?_ne_nan
  · rintro ⟨before, sign, word, after, rfl, hmargin, hsign, hword⟩
    have hletter (c : Char) (hc : c ∈ word) : c.toLower = 'n' ∨ c.toLower = 'a' := by
      have hmem : c.toLower ∈ ['n', 'a', 'n'] := hword ▸ List.mem_map_of_mem hc
      simp only [List.mem_cons, List.not_mem_nil, or_false] at hmem
      obtain hn | ha | hn := hmem
      · exact .inl hn
      · exact .inr ha
      · exact .inl hn
    have hne : sign ++ word ≠ [] := by
      rintro hnil
      rw [(List.append_eq_nil_iff.1 hnil).2] at hword
      cases hword
    have htrim : trimWhile isMargin (before ++ (sign ++ word ++ after)) = sign ++ word := by
      refine trimWhile_append (fun c hc => hmargin c (List.mem_append_left _ hc))
        (fun c hc => hmargin c (List.mem_append_right _ hc)) hne fun c hc => ?_
      obtain hc | hc := List.mem_append.1 hc
      · exact isMargin_of_mem_sign hsign hc
      · exact isMargin_of_toLower (hletter c hc)
    have hrest : (takeSign (sign ++ word)).2 = word := by
      refine takeSign_append hsign fun c hc => ⟨?_, ?_⟩
      · rintro rfl
        exact absurd (hletter _ (List.mem_of_mem_head? hc)) (by decide)
      · rintro rfl
        exact absurd (hletter _ (List.mem_of_mem_head? hc)) (by decide)
    rw [readFloat?, htrim]
    dsimp only
    rw [hrest, hword]
    rfl

end Numeral

end StateCheck
