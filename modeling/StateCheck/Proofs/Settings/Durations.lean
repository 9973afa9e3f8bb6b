import Mathlib.Data.List.Nodup
import StateCheck.Device.Waiting
import StateCheck.Proofs.Except
import StateCheck.Proofs.Number.NotANumber
import StateCheck.Settings

/-!
Durations that are accepted: they are greater than zero, but for the one text that is read as a
number and is none.
-/

namespace StateCheck.Duration

variable {cs number number' : List Char} {scale scale' : Binary64} {text : String} {f : Failure}
  {d x : Binary64}

/-! ### The unit -/

/-- A text is a number and the longest unit that it ends with, or a number of seconds. -/
inductive Parts (cs number : List Char) (scale : Binary64) : Prop
  | unit (name : String) (hunit : (name, scale) ∈ units) (hcs : cs = number ++ name.toList)
    (longest : ∀ u ∈ units, u.1.toList <:+ cs → u.1.length ≤ name.length)
  | bare (hcs : cs = number) (hscale : scale = .ofNat 1) (hnone : ∀ u ∈ units, ¬u.1.toList <:+ cs)

theorem units_pairwise : units.Pairwise fun u v => v.1.length ≤ u.1.length := by
  decide +kernel

theorem units_nodup : (units.map Prod.fst).Nodup := by simp [units]

theorem units_pos : ∀ u ∈ units,
    Binary64.zero.lt u.2 = true ∧ u.2.lt (.infinite false) = true := by decide +kernel

theorem parts_split (cs : List Char) : Parts cs (split cs).1 (split cs).2 := by
  unfold split
  cases hfind : units.find? fun u => u.1.toList.isSuffixOf cs with
  | none =>
    dsimp only
    refine .bare rfl rfl fun u hu hsuffix => ?_
    exact List.find?_eq_none.1 hfind u hu (List.isSuffixOf_iff_suffix.2 hsuffix)
  | some u =>
    obtain ⟨name, scale⟩ := u
    obtain ⟨hsuffix, before, after, hunits, hbefore⟩ := List.find?_eq_some_iff_append.1 hfind
    obtain ⟨number, hcs⟩ := List.isSuffixOf_iff_suffix.1 hsuffix
    have hnumber : cs.take (cs.length - name.length) = number := by
      refine hcs ▸ List.take_left' ?_
      rw [List.length_append, String.length_toList, Nat.add_sub_cancel]
    dsimp only
    rw [hnumber]
    refine .unit name (List.mem_of_find?_eq_some hfind) hcs.symm fun u hu hlonger => ?_
    -- The units before the one that is found are no suffixes, and those behind are no longer.
    have hpairwise := units_pairwise
    rw [hunits] at hu hpairwise
    obtain hu | hu := List.mem_append.1 hu
    · have hnot := hbefore u hu
      rw [List.isSuffixOf_iff_suffix.2 hlonger] at hnot
      cases hnot
    · obtain rfl | hu := List.mem_cons.1 hu
      · exact Nat.le_refl _
      · exact List.rel_of_pairwise_cons (List.pairwise_append.1 hpairwise).2.1 hu

/-- A text has one number and one unit. -/
theorem Parts.unique (h : Parts cs number scale) (h' : Parts cs number' scale') :
    number' = number ∧ scale' = scale := by
  cases h with
  | unit name hunit hcs longest =>
    cases h' with
    | unit name' hunit' hcs' longest' =>
      have hlength : name'.toList.length = name.toList.length := by
        have hle := longest _ hunit' (hcs' ▸ List.suffix_append ..)
        have hle' := longest' _ hunit (hcs ▸ List.suffix_append ..)
        rw [String.length_toList, String.length_toList]
        exact Nat.le_antisymm hle hle'
      obtain ⟨hnumber, hname⟩ := List.append_inj' (hcs'.symm.trans hcs) hlength
      obtain rfl := String.toList_injective hname
      have hscale := List.inj_on_of_nodup_map units_nodup hunit' hunit rfl
      exact ⟨hnumber, congrArg Prod.snd hscale⟩
    | bare hcs' hscale' hnone' => exact absurd (hcs ▸ List.suffix_append ..) (hnone' _ hunit)
  | bare hcs hscale hnone =>
    cases h' with
    | unit name' hunit' hcs' longest' =>
      exact absurd (hcs' ▸ List.suffix_append ..) (hnone _ hunit')
    | bare hcs' hscale' hnone' => exact ⟨hcs'.symm.trans hcs, hscale'.trans hscale.symm⟩

theorem parts_iff :
    Parts cs number scale ↔ number = (split cs).1 ∧ scale = (split cs).2 := by
  constructor
  · exact (parts_split cs).unique
  · rintro ⟨rfl, rfl⟩
    exact parts_split cs

/-- Every scale is positive and finite. -/
theorem Parts.scale_pos (h : Parts cs number scale) :
    Binary64.zero.lt scale = true ∧ scale.lt (.infinite false) = true := by
  cases h with
  | unit name hunit hcs longest => exact units_pos _ hunit
  | bare hcs hscale hnone =>
    have hsecond : ("s", scale) ∈ units := by simp [units, hscale]
    exact units_pos _ hsecond

/-! ### Reading -/

/-- The text has no number where one is to stand. -/
def invalid (text : String) : Failure := .of .config ("Invalid duration '" ++ text ++ "'") []

/-- The text stands for zero or less. -/
def notPositive (text : String) : Failure :=
  .of .config ("Duration must be positive: '" ++ text ++ "'") []

section

variable (h : Parts (Text.trim text.toList) number scale)
include h

theorem Parts.read_of_none (hnone : Numeral.readFloat? number = none) :
    read text = .error (invalid text) := by
  obtain ⟨rfl, rfl⟩ := parts_iff.1 h
  unfold read
  dsimp only
  rw [hnone]
  rfl

theorem Parts.read_of_some (hx : Numeral.readFloat? number = some x) :
    read text =
      if (x.mul scale).le .zero = true then .error (notPositive text) else .ok (x.mul scale) := by
  obtain ⟨rfl, rfl⟩ := parts_iff.1 h
  unfold read
  dsimp only
  rw [hx]
  rfl

theorem Parts.read_eq_error_iff : read text = .error f ↔
    Numeral.readFloat? number = none ∧ f = invalid text ∨
    ∃ x, Numeral.readFloat? number = some x ∧ (x.mul scale).le .zero = true ∧
      f = notPositive text := by
  cases hx : Numeral.readFloat? number with
  | none =>
    rw [h.read_of_none hx]
    constructor
    · intro hf
      exact .inl ⟨rfl, (Except.error.inj hf).symm⟩
    · rintro (⟨-, rfl⟩ | ⟨x, hx', -⟩)
      · rfl
      · cases hx'
  | some x =>
    rw [h.read_of_some hx]
    constructor
    · intro hf
      by_cases hle : (x.mul scale).le .zero = true
      · rw [if_pos hle] at hf
        exact .inr ⟨x, rfl, hle, (Except.error.inj hf).symm⟩
      · rw [if_neg hle] at hf
        cases hf
    · rintro (⟨hnone, -⟩ | ⟨x', hx', hle, rfl⟩)
      · cases hnone
      · cases hx'
        exact if_pos hle

theorem Parts.read_eq_ok_iff : read text = .ok d ↔
    ∃ x, Numeral.readFloat? number = some x ∧ d = x.mul scale ∧ d.le .zero = false := by
  cases hx : Numeral.readFloat? number with
  | none =>
    rw [h.read_of_none hx]
    exact iff_of_false nofun nofun
  | some x =>
    rw [h.read_of_some hx]
    by_cases hle : (x.mul scale).le .zero = true
    · rw [if_pos hle]
      refine iff_of_false nofun ?_
      rintro ⟨x', hx', rfl, hpos⟩
      cases hx'
      rw [hle] at hpos
      cases hpos
    · rw [if_neg hle]
      constructor
      · intro hd
        cases hd
        exact ⟨x, rfl, rfl, Bool.eq_false_iff.2 hle⟩
      · rintro ⟨x', hx', rfl, -⟩
        cases hx'
        rfl

theorem Parts.mul_eq_nan_iff (hx : Numeral.readFloat? number = some x) :
    x.mul scale = .nan ↔ Numeral.SpellsNaN number := by
  obtain ⟨hpos, hfinite⟩ := h.scale_pos
  rw [Binary64.mul_eq_nan_iff hpos hfinite, ← Numeral.readFloat?_eq_nan_iff, hx, Option.some_inj]

/-- What is accepted is greater than zero, or it is no number and is spelled so. -/
theorem Parts.pos_or_nan (hread : read text = .ok d) :
    Binary64.zero.lt d = true ∧ ¬Numeral.SpellsNaN number ∨
      d = .nan ∧ Numeral.SpellsNaN number := by
  obtain ⟨x, hx, rfl, hpos⟩ := h.read_eq_ok_iff.1 hread
  obtain hlt | hnan := Binary64.not_le_zero_iff.1 hpos
  · refine .inl ⟨hlt, fun hspells => ?_⟩
    rw [(h.mul_eq_nan_iff hx).2 hspells] at hlt
    cases hlt
  · exact .inr ⟨hnan, (h.mul_eq_nan_iff hx).1 hnan⟩

end

theorem timeLimit_eq_none_iff {s : Settings} : s.timeLimit = .ok none ↔ s.timeout = "" := by
  unfold Settings.timeLimit
  split
  · next htimeout => exact iff_of_true rfl htimeout
  · next htimeout =>
    refine iff_of_false (fun hnone => ?_) htimeout
    obtain ⟨d, -, hd⟩ := map_eq_ok hnone
    cases hd

theorem timeLimit_eq_some_iff {s : Settings} :
    s.timeLimit = .ok (some d) ↔ s.timeout ≠ "" ∧ read s.timeout = .ok d := by
  unfold Settings.timeLimit
  split
  · next htimeout => exact iff_of_false nofun fun hread => hread.1 htimeout
  · next htimeout =>
    constructor
    · intro hsome
      obtain ⟨d', hread, hd⟩ := map_eq_ok hsome
      cases hd
      exact ⟨htimeout, hread⟩
    · rintro ⟨-, hread⟩
      rw [hread]
      rfl

/-- A text has one number, in front of the longest unit that it ends with. It is accepted exactly
if the number is read and its multiple of the unit is not zero or less, and refused as invalid or as
not positive otherwise. An accepted duration is greater than zero unless the number is spelled
`nan`: that is not ordered, so it is not zero or less either. So a time limit in the settings is
none, or positive, or no number. -/
theorem read_outcome (text : String) :
    ∃ number scale,
      (∀ n s, Parts (Text.trim text.toList) n s ↔ n = number ∧ s = scale) ∧
      (∀ d, read text = .ok d ↔
        ∃ x, Numeral.readFloat? number = some x ∧ d = x.mul scale ∧
          (Binary64.zero.lt d = true ∨ Numeral.SpellsNaN number)) ∧
      (∀ f, read text = .error f ↔
        Numeral.readFloat? number = none ∧ f = invalid text ∨
        ∃ x, Numeral.readFloat? number = some x ∧ (x.mul scale).le .zero = true ∧
          f = notPositive text) ∧
      (∀ d, read text = .ok d →
        (Binary64.zero.lt d = true ↔ ¬Numeral.SpellsNaN number) ∧
        (d = .nan ↔ Numeral.SpellsNaN number)) ∧
      ∀ s : Settings, s.timeout = text →
        (s.timeLimit = .ok none ↔ text = "") ∧
        ∀ d, s.timeLimit = .ok (some d) →
          Binary64.zero.lt d = true ∧ ¬Numeral.SpellsNaN number ∨
            d = .nan ∧ Numeral.SpellsNaN number := by
  have h := parts_split (Text.trim text.toList)
  refine ⟨_, _, fun n s => parts_iff, ?_, fun f => h.read_eq_error_iff, ?_, ?_⟩
  · intro d
    constructor
    · intro hread
      obtain ⟨x, hx, hd, -⟩ := h.read_eq_ok_iff.1 hread
      exact ⟨x, hx, hd, (h.pos_or_nan hread).imp And.left And.right⟩
    · rintro ⟨x, hx, rfl, haccepted⟩
      refine h.read_eq_ok_iff.2 ⟨x, hx, rfl, Binary64.not_le_zero_iff.2 ?_⟩
      exact haccepted.imp_right (h.mul_eq_nan_iff hx).2
  · intro d hread
    obtain ⟨hlt, hspells⟩ | ⟨rfl, hspells⟩ := h.pos_or_nan hread
    · refine ⟨iff_of_true hlt hspells, iff_of_false ?_ hspells⟩
      rintro rfl
      cases hlt
    · exact ⟨iff_of_false nofun (not_not_intro hspells), iff_of_true rfl hspells⟩
  · rintro s rfl
    exact ⟨timeLimit_eq_none_iff, fun d hd => h.pos_or_nan (timeLimit_eq_some_iff.1 hd).2⟩

/-- Half a second, with a unit that ends with another one. -/
theorem read_outcome_milliseconds :
    ∃ d, read " 500ms" = .ok d ∧ Binary64.zero.lt d = true ∧
      ∀ n s, Parts (Text.trim " 500ms".toList) n s →
        n = "500".toList ∧ s = .ofScientific false 1 (-3) := by
  obtain ⟨number, scale, hparts, hok, -, hpos, -⟩ := read_outcome " 500ms"
  have hsplit : Parts (Text.trim " 500ms".toList) "500".toList (.ofScientific false 1 (-3)) :=
    .unit "ms" (by simp [units]) (by decide +kernel) (by decide +kernel)
  obtain ⟨rfl, rfl⟩ := (hparts _ _).1 hsplit
  have hx : Numeral.readFloat? "500".toList = some (.ofNat 500) := by decide +kernel
  have hspells : ¬Numeral.SpellsNaN "500".toList := by
    rw [← Numeral.readFloat?_eq_nan_iff]
    decide +kernel
  have hread := (hok _).2 ⟨_, hx, rfl, .inl (by decide +kernel)⟩
  exact ⟨_, hread, ((hpos _ hread).1).2 hspells, fun n s => (hparts n s).1⟩

/-- A duration that is no number is accepted, and a wait with it as its limit never ends if there
is no answer. -/
theorem read_nan :
    read "nan" = .ok .nan ∧ Binary64.zero.lt .nan = false ∧
      Device.Waiting.await ⟨none, none, Device.Waiting.limitOf (some .nan)⟩ = none := by
  refine ⟨?_, rfl, rfl⟩
  have hsplit : Parts (Text.trim "nan".toList) "nan".toList (.ofNat 1) :=
    .bare (by decide +kernel) rfl (by decide +kernel)
  have hx : Numeral.readFloat? "nan".toList = some .nan := by decide +kernel
  exact hsplit.read_eq_ok_iff.2 ⟨.nan, hx, rfl, rfl⟩

end StateCheck.Duration
