import Mathlib.Data.List.TakeWhile
import StateCheck.Path.Reading
import StateCheck.Proofs.Except

/-!
How the brackets and slashes of a text decide its pieces.
-/

namespace StateCheck.Path

/-- A text that is a single piece: its brackets match, and no slash stands outside of them. -/
def IsPiece (w : List Char) : Prop := pieces 0 w = .ok [w]

/-- The pieces with `w` in front of the first one. -/
def prepend (w : List Char) (ps : List (List Char)) : List (List Char) := w.foldr pushChar ps

/-! ### One character -/

theorem pieces_open (depth : Nat) (cs : List Char) :
    pieces depth ('[' :: cs) = (pieces (depth + 1) cs).map (pushChar '[') := by
  cases depth <;> rfl

theorem pieces_close (depth : Nat) (cs : List Char) :
    pieces (depth + 1) (']' :: cs) = (pieces depth cs).map (pushChar ']') := rfl

theorem pieces_slash (cs : List Char) :
    pieces 0 ('/' :: cs) = (pieces 0 cs).map ([] :: ·) := rfl

theorem pieces_inside (depth : Nat) {c : Char} (ho : c ≠ '[') (hc : c ≠ ']') (cs : List Char) :
    pieces (depth + 1) (c :: cs) = (pieces (depth + 1) cs).map (pushChar c) := by
  rw [pieces] <;> simp_all

theorem pieces_outside {c : Char} (ho : c ≠ '[') (hc : c ≠ ']') (hs : c ≠ '/') (cs : List Char) :
    pieces 0 (c :: cs) = (pieces 0 cs).map (pushChar c) := by
  rw [pieces] <;> simp_all

/-- What a text with pieces begins with. -/
theorem pieces_cases {depth : Nat} {c : Char} {cs : List Char} {ps : List (List Char)}
    (h : pieces depth (c :: cs) = .ok ps) :
    (c = '/' ∧ depth = 0 ∧ ∃ qs, pieces 0 cs = .ok qs ∧ ps = [] :: qs) ∨
      ∃ next qs, pieces next cs = .ok qs ∧ ps = pushChar c qs ∧
        (∀ w, pieces depth (c :: w) = (pieces next w).map (pushChar c)) ∧
        depth + [c].count '[' = next + [c].count ']' := by
  by_cases ho : c = '['
  · subst c
    rw [pieces_open] at h
    obtain ⟨qs, hq, rfl⟩ := map_eq_ok h
    exact .inr ⟨depth + 1, qs, hq, rfl, pieces_open depth, by simp⟩
  · by_cases hc : c = ']'
    · subst c
      cases depth with
      | zero => cases (show Except.error BracketFault.unbalanced = .ok ps from h)
      | succ depth =>
        rw [pieces_close] at h
        obtain ⟨qs, hq, rfl⟩ := map_eq_ok h
        exact .inr ⟨depth, qs, hq, rfl, pieces_close depth, by simp⟩
    · cases depth with
      | zero =>
        by_cases hs : c = '/'
        · subst c
          rw [pieces_slash] at h
          obtain ⟨qs, hq, rfl⟩ := map_eq_ok h
          exact .inl ⟨rfl, rfl, qs, hq, rfl⟩
        · rw [pieces_outside ho hc hs] at h
          obtain ⟨qs, hq, rfl⟩ := map_eq_ok h
          exact .inr ⟨0, qs, hq, rfl, pieces_outside ho hc hs, by simp [ho, hc]⟩
      | succ depth =>
        rw [pieces_inside depth ho hc] at h
        obtain ⟨qs, hq, rfl⟩ := map_eq_ok h
        exact .inr ⟨depth + 1, qs, hq, rfl, pieces_inside depth ho hc, by simp [ho, hc]⟩

theorem pieces_nil {depth : Nat} {ps : List (List Char)} (h : pieces depth [] = .ok ps) :
    depth = 0 ∧ ps = [[]] := by
  cases depth with
  | zero =>
    cases (show Except.ok [[]] = .ok ps from h)
    exact ⟨rfl, rfl⟩
  | succ depth => cases (show Except.error BracketFault.unclosed = .ok ps from h)

/-! ### All characters -/

theorem pushChar_ne_nil (c : Char) (ps : List (List Char)) : pushChar c ps ≠ [] := by
  cases ps <;> simp [pushChar]

theorem pieces_ne_nil {depth : Nat} {cs : List Char} {ps : List (List Char)}
    (h : pieces depth cs = .ok ps) : ps ≠ [] := by
  cases cs with
  | nil => simp [(pieces_nil h).2]
  | cons c cs =>
    obtain ⟨-, -, qs, -, rfl⟩ | ⟨-, qs, -, rfl, -⟩ := pieces_cases h
    · simp
    · exact pushChar_ne_nil c qs

theorem joinSegments_cons {w : List Char} {ps : List (List Char)} (h : ps ≠ []) :
    joinSegments (w :: ps) = w ++ '/' :: joinSegments ps := by
  cases ps with
  | nil => exact absurd rfl h
  | cons p ps => rfl

theorem joinSegments_pushChar (c : Char) {ps : List (List Char)} (h : ps ≠ []) :
    joinSegments (pushChar c ps) = c :: joinSegments ps := by
  cases ps with
  | nil => exact absurd rfl h
  | cons p ps => cases ps <;> rfl

/-- The pieces of a text and slashes between them make up the text. -/
theorem joinSegments_pieces {depth : Nat} {cs : List Char} {ps : List (List Char)}
    (h : pieces depth cs = .ok ps) : joinSegments ps = cs := by
  induction cs generalizing depth ps with
  | nil => rw [(pieces_nil h).2]; rfl
  | cons c cs ih =>
    obtain ⟨rfl, -, qs, hq, rfl⟩ | ⟨next, qs, hq, rfl, -⟩ := pieces_cases h
    · rw [joinSegments_cons (pieces_ne_nil hq), ih hq]
      rfl
    · rw [joinSegments_pushChar c (pieces_ne_nil hq), ih hq]

theorem count_brackets {depth : Nat} {cs : List Char} {ps : List (List Char)}
    (h : pieces depth cs = .ok ps) : depth + cs.count '[' = cs.count ']' := by
  induction cs generalizing depth ps with
  | nil => simp [(pieces_nil h).1]
  | cons c cs ih =>
    obtain ⟨rfl, rfl, qs, hq, -⟩ | ⟨next, qs, hq, -, -, hn⟩ := pieces_cases h
    · simpa using ih hq
    · have hc := ih hq
      rw [← List.singleton_append, List.count_append, List.count_append]
      omega

/-- The first piece takes up the open brackets, and each of the others stands for itself. -/
theorem pieces_mem {depth : Nat} {cs p : List Char} {ps : List (List Char)}
    (h : pieces depth cs = .ok (p :: ps)) : pieces depth p = .ok [p] ∧ ∀ q ∈ ps, IsPiece q := by
  induction cs generalizing depth p ps with
  | nil =>
    obtain ⟨rfl, hp⟩ := pieces_nil h
    cases hp
    exact ⟨rfl, by simp⟩
  | cons c cs ih =>
    obtain ⟨rfl, rfl, qs, hq, hp⟩ | ⟨next, qs, hq, hp, hw, -⟩ := pieces_cases h
    · cases hp
      refine ⟨rfl, ?_⟩
      cases ps with
      | nil => simp
      | cons q qs =>
        obtain ⟨hq₁, hq₂⟩ := ih hq
        exact List.forall_mem_cons.2 ⟨hq₁, hq₂⟩
    · cases qs with
      | nil => exact absurd rfl (pieces_ne_nil hq)
      | cons q qs =>
        obtain ⟨hq₁, hq₂⟩ := ih hq
        cases hp
        refine ⟨?_, hq₂⟩
        rw [hw, hq₁]
        rfl

theorem isPiece_of_mem {cs p : List Char} {ps : List (List Char)} (h : pieces 0 cs = .ok ps)
    (hp : p ∈ ps) : IsPiece p := by
  cases ps with
  | nil => cases hp
  | cons q qs =>
    obtain ⟨hq, hqs⟩ := pieces_mem h
    exact List.forall_mem_cons (p := IsPiece).2 ⟨hq, hqs⟩ p hp

/-! ### Several pieces -/

theorem pieces_append {depth : Nat} {w : List Char} (h : pieces depth w = .ok [w])
    (cs : List Char) : pieces depth (w ++ '/' :: cs) = (pieces 0 cs).map (w :: ·) := by
  induction w generalizing depth with
  | nil =>
    obtain ⟨rfl, -⟩ := pieces_nil h
    exact pieces_slash cs
  | cons c w ih =>
    obtain ⟨-, -, qs, hq, hp⟩ | ⟨next, qs, hq, hp, hw, -⟩ := pieces_cases h
    · cases hp
    · cases qs with
      | nil => exact absurd rfl (pieces_ne_nil hq)
      | cons q qs =>
        cases hp
        rw [List.cons_append, hw, ih hq, map_map]
        rfl

/-- Pieces are found again in the text that they make up. -/
theorem pieces_joinSegments {ps : List (List Char)} (hne : ps ≠ []) (h : ∀ p ∈ ps, IsPiece p) :
    pieces 0 (joinSegments ps) = .ok ps := by
  induction ps with
  | nil => exact absurd rfl hne
  | cons p ps ih =>
    cases ps with
    | nil => exact h p (by simp)
    | cons q qs =>
      have hp : IsPiece p := h p (by simp)
      rw [joinSegments_cons (by simp), pieces_append hp,
        ih (by simp) fun r hr => h r (List.mem_cons_of_mem _ hr)]
      rfl

/-! ### Texts in front -/

theorem map_prepend_cons {ε : Type} (c : Char) (w : List Char)
    (x : Except ε (List (List Char))) :
    (x.map (prepend w)).map (pushChar c) = x.map (prepend (c :: w)) := map_map _ _ _

theorem prepend_append (v w : List Char) (ps : List (List Char)) :
    prepend (v ++ w) ps = prepend v (prepend w ps) := List.foldr_append

theorem prepend_nil (w : List Char) : prepend w [[]] = [w] := by
  induction w with
  | nil => rfl
  | cons c w ih =>
    have hp : prepend (c :: w) [[]] = pushChar c (prepend w [[]]) := rfl
    rw [hp, ih]
    rfl

/-- Text without brackets and slashes stays in one piece. -/
theorem pieces_plain {w : List Char} (h : ∀ c ∈ w, c ≠ '/' ∧ c ≠ '[' ∧ c ≠ ']')
    (cs : List Char) : pieces 0 (w ++ cs) = (pieces 0 cs).map (prepend w) := by
  induction w with
  | nil => cases hp : pieces 0 cs <;> simp [hp, Except.map, prepend]
  | cons c w ih =>
    obtain ⟨hs, ho, hc⟩ := h c (by simp)
    rw [List.cons_append, pieces_outside ho hc hs, ih fun d hd => h d (by simp [hd]),
      map_prepend_cons]

/-- Within brackets, text without brackets stays in one piece. -/
theorem pieces_enclosed {w : List Char} (h : ∀ c ∈ w, c ≠ '[' ∧ c ≠ ']') (depth : Nat)
    (cs : List Char) :
    pieces (depth + 1) (w ++ cs) = (pieces (depth + 1) cs).map (prepend w) := by
  induction w with
  | nil => cases hp : pieces (depth + 1) cs <;> simp [hp, Except.map, prepend]
  | cons c w ih =>
    obtain ⟨ho, hc⟩ := h c (by simp)
    rw [List.cons_append, pieces_inside depth ho hc, ih fun d hd => h d (by simp [hd]),
      map_prepend_cons]

/-- What stands before the first opening bracket of a piece. -/
theorem plain_of_isPiece {w cs : List Char} (h : IsPiece (w ++ cs)) (hw : '[' ∉ w) :
    ∀ c ∈ w, c ≠ '/' ∧ c ≠ '[' ∧ c ≠ ']' := by
  induction w with
  | nil => simp
  | cons c w ih =>
    simp only [List.mem_cons, not_or] at hw
    have ho : c ≠ '[' := Ne.symm hw.1
    obtain ⟨-, -, qs, hq, hp⟩ | ⟨next, qs, hq, hp, -, hn⟩ := pieces_cases h
    · cases hp
    · cases qs with
      | nil => exact absurd rfl (pieces_ne_nil hq)
      | cons q qs =>
        cases hp
        have hc : c ≠ ']' := by
          rintro rfl
          simp at hn
        have hs : c ≠ '/' := by
          rintro rfl
          rw [IsPiece, List.cons_append, pieces_slash] at h
          obtain ⟨rs, -, hr⟩ := map_eq_ok h
          cases hr
        have hz : next = 0 := by simpa [ho, hc] using hn.symm
        subst next
        exact List.forall_mem_cons.2 ⟨⟨hs, ho, hc⟩, ih hq hw.2⟩

end StateCheck.Path
