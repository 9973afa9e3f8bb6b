import Mathlib.Data.List.Chain
import Mathlib.Data.List.Forall2
import Mathlib.Data.List.TakeWhile
import StateCheck.Text.Blank

/-!
Lines together with the breaks that end them: a text falls into them, and comes back from those
that are kept of it.
-/

namespace StateCheck.Text

variable {c : Char} {cs l v w blanks : List Char} {ls : List (List Char)}

/-- The lines of a text, each with the break that ends it. -/
def wholeLines : List Char → List (List Char)
  | [] => []
  | '\r' :: '\n' :: cs => ['\r', '\n'] :: wholeLines cs
  | c :: cs =>
    if isLineBreak c then [c] :: wholeLines cs
    else match wholeLines cs with
      | [] => [[c]]
      | l :: ls => (c :: l) :: ls

theorem flatten_wholeLines (cs : List Char) : (wholeLines cs).flatten = cs := by
  fun_induction wholeLines cs with
  | case1 => rfl
  | case2 cs ih => simp [ih]
  | case3 c cs _ _ ih => simp [ih]
  | case4 c cs _ _ hnil ih =>
    rw [hnil] at ih
    simp [← ih]
  | case5 c cs _ _ l ls hcons ih =>
    rw [hcons] at ih
    simp [← ih]

/-- A whole line is a line with breaks behind it. -/
theorem forall₂_wholeLines (cs : List Char) : List.Forall₂
    (fun l w => ∃ breaks, w = l ++ breaks ∧ ∀ c ∈ breaks, isLineBreak c = true)
    (lines cs) (wholeLines cs) := by
  fun_induction wholeLines cs with
  | case1 => exact .nil
  | case2 cs ih => exact .cons ⟨['\r', '\n'], rfl, by simp [isLineBreak]⟩ ih
  | case3 c cs hpair hbreak ih =>
    rw [lines.eq_3 c cs hpair, if_pos hbreak]
    exact .cons ⟨[c], rfl, by simpa using hbreak⟩ ih
  | case4 c cs hpair hbreak hnil ih =>
    rw [hnil, List.forall₂_nil_right_iff] at ih
    rw [lines.eq_3 c cs hpair, if_neg hbreak, ih]
    exact .cons ⟨[], rfl, nofun⟩ .nil
  | case5 c cs hpair hbreak w ws hcons ih =>
    rw [lines.eq_3 c cs hpair, if_neg hbreak]
    rw [hcons] at ih
    obtain ⟨l, ls, ⟨breaks, hw, hbreaks⟩, hrest, heq⟩ := List.forall₂_cons_right_iff.1 ih
    rw [heq]
    exact .cons ⟨breaks, by rw [hw]; rfl, hbreaks⟩ hrest

/-! ### Breaks are blank -/

theorem isBlank_of_isLineBreak (h : isLineBreak c = true) : isBlank c = true := by
  simp only [isLineBreak, Bool.or_eq_true, Bool.and_eq_true, decide_eq_true_eq, beq_iff_eq] at h
  simp only [isBlank, Bool.or_eq_true, Bool.and_eq_true, decide_eq_true_eq, beq_iff_eq]
  omega

theorem dropRightWhile_append {p : Char → Bool} (h : ∀ c ∈ blanks, p c = true) (cs : List Char) :
    dropRightWhile p (cs ++ blanks) = dropRightWhile p cs := by
  have hdrop : blanks.reverse.dropWhile p = [] := List.dropWhile_eq_nil_iff.2 (by simpa using h)
  rw [dropRightWhile, List.reverse_append, List.dropWhile_append, hdrop]
  rfl

theorem trim_append (h : ∀ c ∈ blanks, isBlank c = true) (cs : List Char) :
    trim (cs ++ blanks) = trim cs := by
  have hdrop : blanks.dropWhile isBlank = [] := List.dropWhile_eq_nil_iff.2 h
  rw [trim, trim, trimWhile, trimWhile, List.dropWhile_append]
  split
  · next hempty =>
    rw [hdrop, List.isEmpty_iff.1 hempty]
  · exact dropRightWhile_append h _

/-! ### Putting lines together -/

/-- A line that is ended by a break. -/
inductive Ended : List Char → Prop
  | pair : Ended ['\r', '\n']
  | single {c : Char} (h : isLineBreak c = true) : Ended [c]
  | cons {c : Char} {l : List Char} (h : isLineBreak c = false) (hl : Ended l) : Ended (c :: l)

/-- The break that ends the first line goes on in the second. -/
def Merge (v w : List Char) : Prop := v.getLast? = some '\r' ∧ w.head? = some '\n'

/-- The second line can stand behind the first. -/
def Follows (v w : List Char) : Prop := Ended v ∧ ¬Merge v w

/-- Lines that stay apart if they are put together. -/
structure Apart (ls : List (List Char)) : Prop where
  whole : ∀ l ∈ ls, wholeLines l = [l]
  chain : ls.IsChain Follows

theorem wholeLines_single (h : isLineBreak c = true) (hpair : c = '\r' → cs.head? ≠ some '\n') :
    wholeLines (c :: cs) = [c] :: wholeLines cs := by
  rw [wholeLines.eq_3 c cs, if_pos h]
  rintro cs' rfl rfl
  exact hpair rfl rfl

theorem wholeLines_cons (h : isLineBreak c = false) (hw : wholeLines cs = l :: ls) :
    wholeLines (c :: cs) = (c :: l) :: ls := by
  rw [wholeLines.eq_3 c cs, if_neg (by simp [h]), hw]
  rintro cs' rfl -
  cases h

theorem Ended.ne_nil (h : Ended v) : v ≠ [] := by
  cases h <;> exact List.cons_ne_nil _ _

theorem Ended.wholeLines_append (h : Ended v) (hmerge : ¬Merge v cs) :
    wholeLines (v ++ cs) = v :: wholeLines cs := by
  induction h with
  | pair => rfl
  | single h => exact wholeLines_single h fun hc hcs => hmerge ⟨by rw [hc]; rfl, hcs⟩
  | @cons c l h hl ih =>
    refine wholeLines_cons h (ih fun hm => hmerge ⟨?_, hm.2⟩)
    rw [List.getLast?_cons_of_ne_nil hl.ne_nil, hm.1]

theorem Apart.tail {v : List Char} (h : Apart (v :: ls)) : Apart ls :=
  ⟨fun l hl => h.whole l (List.mem_cons_of_mem v hl), h.chain.tail⟩

theorem head?_flatten (hw : w ≠ []) (ls : List (List Char)) :
    (w :: ls).flatten.head? = w.head? := by
  cases w with
  | nil => exact absurd rfl hw
  | cons c w => rfl

theorem Apart.ne_nil (h : Apart ls) (hw : w ∈ ls) : w ≠ [] := by
  rintro rfl
  have hnil := h.whole [] hw
  cases hnil

theorem Apart.wholeLines_flatten (h : Apart ls) : wholeLines ls.flatten = ls := by
  induction ls with
  | nil => rfl
  | cons v ls ih =>
    cases ls with
    | nil => simpa using h.whole v List.mem_cons_self
    | cons w ls =>
      obtain ⟨⟨hended, hmerge⟩, -⟩ := List.isChain_cons_cons.1 h.chain
      have hne : w ≠ [] := h.ne_nil (by simp)
      rw [List.flatten_cons, hended.wholeLines_append, ih h.tail]
      rw [Merge, head?_flatten hne]
      exact hmerge

theorem head?_wholeLines (hne : w ≠ []) (h : wholeLines cs = w :: ls) : w.head? = cs.head? := by
  rw [← flatten_wholeLines cs, h, head?_flatten hne]

/-- A line in front of others, with which no break of it goes on. -/
theorem Apart.cons (hv : Ended v) (hmerge : ¬Merge v cs) (h : Apart (wholeLines cs)) :
    Apart (v :: wholeLines cs) := by
  refine ⟨List.forall_mem_cons.2 ⟨?_, h.whole⟩, ?_⟩
  · have hwhole : wholeLines (v ++ []) = [v] := hv.wholeLines_append fun hm => by cases hm.2
    rwa [List.append_nil] at hwhole
  · cases hls : wholeLines cs with
    | nil => exact List.isChain_singleton v
    | cons w ls =>
      rw [hls] at h
      refine List.isChain_cons_cons.2 ⟨⟨hv, ?_⟩, h.chain⟩
      rwa [Merge, head?_wholeLines (h.ne_nil List.mem_cons_self) hls]

theorem apart_wholeLines (cs : List Char) : Apart (wholeLines cs) := by
  fun_induction wholeLines cs with
  | case1 => exact ⟨nofun, .nil⟩
  | case2 cs ih => exact ih.cons .pair fun hm => by cases hm.1
  | case3 c cs hpair hbreak ih =>
    refine ih.cons (.single hbreak) fun hm => ?_
    obtain ⟨cs', rfl⟩ := List.head?_eq_some_iff.1 hm.2
    exact hpair cs' (by simpa using hm.1) rfl
  | case4 c cs hpair hbreak hnil ih =>
    -- Only the empty text has no lines.
    have hcs : cs = [] := by
      rw [← flatten_wholeLines cs, hnil]
      rfl
    subst hcs
    refine ⟨List.forall_mem_singleton.2 ?_, List.isChain_singleton _⟩
    rw [wholeLines.eq_3 c [] hpair, if_neg hbreak, hnil]
  | case5 c cs hpair hbreak w ws hcons ih =>
    have hc : isLineBreak c = false := by simpa using hbreak
    rw [hcons] at ih
    obtain ⟨hw, hws⟩ := List.forall_mem_cons.1 ih.whole
    refine ⟨List.forall_mem_cons.2 ⟨wholeLines_cons hc hw, hws⟩, ?_⟩
    cases ws with
    | nil => exact List.isChain_singleton _
    | cons v ws =>
      obtain ⟨⟨hended, hmerge⟩, hrest⟩ := List.isChain_cons_cons.1 ih.chain
      refine List.isChain_cons_cons.2 ⟨⟨hended.cons hc, fun hm => hmerge ⟨?_, hm.2⟩⟩, hrest⟩
      rw [← hm.1, List.getLast?_cons_of_ne_nil hended.ne_nil]

end StateCheck.Text
