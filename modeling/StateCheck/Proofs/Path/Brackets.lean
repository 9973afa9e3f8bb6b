import StateCheck.Proofs.Path.RoundTrip

/-!
Which texts are cut into segments, and what the segments keep of them: the brackets of a text have
to be balanced, and then nothing but slashes between segments is left out.
-/

namespace StateCheck.Path

variable {depth next : Nat} {c : Char} {cs u v w : List Char} {ps qs ws : List (List Char)}

/-! ### Balanced brackets -/

/-- Behind `depth` open brackets the text closes no bracket that is not open, and all that are. -/
structure Closes (depth : Nat) (w : List Char) : Prop where
  opened : ∀ u, u <+: w → u.count ']' ≤ depth + u.count '['
  closed : depth + w.count '[' = w.count ']'

/-- The brackets of a text match. -/
def Balanced (w : List Char) : Prop := Closes 0 w

/-- No slash of the text stands outside of brackets. -/
def Unbroken (w : List Char) : Prop := ∀ u v, w = u ++ '/' :: v → u.count ']' < u.count '['

theorem Closes.tail (h : Closes depth (c :: cs))
    (hn : depth + [c].count '[' = next + [c].count ']') : Closes next cs := by
  have hcount (d : Char) (u : List Char) : (c :: u).count d = [c].count d + u.count d := by
    rw [← List.count_append, List.singleton_append]
  constructor
  · intro u hu
    have hprefix := h.opened (c :: u) (List.cons_prefix_cons.2 ⟨rfl, hu⟩)
    rw [hcount ']', hcount '['] at hprefix
    omega
  · have hclosed := h.closed
    rw [hcount '[', hcount ']'] at hclosed
    omega

/-- The brackets that are open behind the first character of a text with pieces. -/
theorem pieces_next (h : pieces depth (c :: cs) = .ok ps) :
    ∃ next qs, pieces next cs = .ok qs ∧ depth + [c].count '[' = next + [c].count ']' := by
  obtain ⟨rfl, rfl, qs, hq, -⟩ | ⟨next, qs, hq, -, -, hn⟩ := pieces_cases h
  · exact ⟨0, qs, hq, rfl⟩
  · exact ⟨next, qs, hq, hn⟩

/-- No part at the front of a text with pieces closes a bracket that is not open. -/
theorem count_close_le (h : pieces depth (u ++ v) = .ok ps) :
    u.count ']' ≤ depth + u.count '[' := by
  induction u generalizing depth ps with
  | nil => exact Nat.zero_le _
  | cons c u ih =>
    obtain ⟨next, qs, hq, hn⟩ := pieces_next h
    have hu := ih hq
    rw [← List.singleton_append, List.count_append, List.count_append]
    omega

/-- A text has pieces exactly if it closes its brackets. -/
theorem exists_pieces_iff : (∃ ps, pieces depth cs = .ok ps) ↔ Closes depth cs := by
  constructor
  · rintro ⟨ps, h⟩
    refine ⟨?_, count_brackets h⟩
    rintro u ⟨v, rfl⟩
    exact count_close_le h
  · intro h
    induction cs generalizing depth with
    | nil =>
      obtain rfl : depth = 0 := h.closed
      exact ⟨[[]], rfl⟩
    | cons c cs ih =>
      by_cases ho : c = '['
      · subst c
        rw [pieces_open]
        exact exists_map_ok _ (ih (h.tail (by simp)))
      · by_cases hc : c = ']'
        · subst c
          have hfirst : 1 ≤ depth := h.opened [']'] ⟨cs, rfl⟩
          obtain ⟨d, rfl⟩ := Nat.exists_eq_add_of_le' hfirst
          rw [pieces_close]
          exact exists_map_ok _ (ih (h.tail (by simp)))
        · have hplain : Closes depth cs := h.tail (by simp [ho, hc])
          cases depth with
          | succ depth =>
            rw [pieces_inside depth ho hc]
            exact exists_map_ok _ (ih hplain)
          | zero =>
            by_cases hs : c = '/'
            · subst c
              rw [pieces_slash]
              exact exists_map_ok _ (ih hplain)
            · rw [pieces_outside ho hc hs]
              exact exists_map_ok _ (ih hplain)

/-! ### Pieces by themselves -/

/-- A single piece goes on as one behind its first character, which is no slash outside of
brackets. -/
theorem pieces_single_cons (h : pieces depth (c :: cs) = .ok [c :: cs]) :
    ∃ next, pieces next cs = .ok [cs] ∧ depth + [c].count '[' = next + [c].count ']' ∧
      (c = '/' → 0 < depth) := by
  obtain ⟨-, -, qs, -, hp⟩ | ⟨next, qs, hq, hp, -, hn⟩ := pieces_cases h
  · cases hp
  · cases qs with
    | nil => exact absurd rfl (pieces_ne_nil hq)
    | cons q qs =>
      cases hp
      refine ⟨next, hq, hn, ?_⟩
      rintro rfl
      apply Nat.pos_of_ne_zero
      rintro rfl
      rw [pieces_slash] at h
      obtain ⟨rs, -, hr⟩ := map_eq_ok h
      cases hr

/-- Where a slash stands in a single piece, a bracket is open. -/
theorem count_close_lt (h : pieces depth (u ++ '/' :: v) = .ok [u ++ '/' :: v]) :
    u.count ']' < depth + u.count '[' := by
  induction u generalizing depth with
  | nil =>
    obtain ⟨-, -, -, hpos⟩ := pieces_single_cons h
    simpa using hpos rfl
  | cons c u ih =>
    obtain ⟨next, hu, hn, -⟩ := pieces_single_cons h
    have hlt := ih hu
    rw [← List.singleton_append, List.count_append, List.count_append]
    omega

theorem IsPiece.balanced (h : IsPiece w) : Balanced w := exists_pieces_iff.1 ⟨[w], h⟩

theorem IsPiece.unbroken (h : IsPiece w) : Unbroken w := by
  rintro u v rfl
  have hlt := count_close_lt h
  omega

/-! ### Texts joined by slashes -/

theorem joinSegments_append (hp : ps ≠ []) (hq : qs ≠ []) :
    joinSegments (ps ++ qs) = joinSegments ps ++ '/' :: joinSegments qs := by
  induction ps with
  | nil => exact absurd rfl hp
  | cons p ps ih =>
    rw [List.cons_append, joinSegments_cons (List.append_ne_nil_of_right_ne_nil ps hq)]
    by_cases h : ps = []
    · subst h
      rfl
    · rw [ih h, joinSegments_cons h, List.append_assoc, List.cons_append]

theorem pieces_append_slash (hu : pieces 0 u = .ok ps) (hv : pieces 0 v = .ok qs) :
    pieces 0 (u ++ '/' :: v) = .ok (ps ++ qs) := by
  have hp := pieces_ne_nil hu
  have hq := pieces_ne_nil hv
  rw [← joinSegments_pieces hu, ← joinSegments_pieces hv, ← joinSegments_append hp hq]
  apply pieces_joinSegments
  · exact List.append_ne_nil_of_left_ne_nil hp qs
  · exact List.forall_mem_append.2 ⟨fun p => isPiece_of_mem hu, fun q => isPiece_of_mem hv⟩

theorem segments_append_slash (hu : segments u = .ok ws) {ws' : List (List Char)}
    (hv : segments v = .ok ws') : segments (u ++ '/' :: v) = .ok (ws ++ ws') := by
  obtain ⟨ps, hp, rfl⟩ := map_eq_ok hu
  obtain ⟨qs, hq, rfl⟩ := map_eq_ok hv
  rw [segments, pieces_append_slash hp hq, Except.map, List.filter_append]

theorem ne_nil_of_mem_segments (h : segments cs = .ok ws) (hw : w ∈ ws) : w ≠ [] := by
  obtain ⟨ps, -, rfl⟩ := map_eq_ok h
  simpa using (List.mem_filter.1 hw).2

/-- Segments are found again in the text that they make up. -/
theorem segments_joinSegments (h : segments cs = .ok ws) :
    segments (joinSegments ws) = .ok ws := by
  by_cases hne : ws = []
  · subst hne
    rfl
  · have hfilter : ws.filter (fun w => !w.isEmpty) = ws :=
      List.filter_eq_self.2 fun w hw => by simpa using ne_nil_of_mem_segments h hw
    rw [segments, pieces_joinSegments hne fun w => isPiece_of_mem_segments h, Except.map, hfilter]

theorem exists_segments_iff : (∃ ws, segments cs = .ok ws) ↔ Balanced cs := by
  rw [Balanced, ← exists_pieces_iff]
  constructor
  · rintro ⟨ws, h⟩
    obtain ⟨ps, hp, -⟩ := map_eq_ok h
    exact ⟨ps, hp⟩
  · exact exists_map_ok _

/-! ### Elements in segments -/

theorem readKeys_ne_emptyElement {segment : String} {ks : Keys} :
    readKeys segment ks cs ≠ .error .emptyElement := by
  fun_induction readKeys segment ks cs with
  | case7 ks c cs hc group rest hg key value hk hne ks₁ hadd _ ih => exact ih
  | _ =>
    intro h
    cases h

/-- A bracket that is left open in a run of groups is not closed in the rest of the text. -/
theorem exists_open_of_readKeys {segment segment' : String} {ks : Keys}
    (h : readKeys segment ks cs = .error (.unclosedKey segment')) :
    ∃ u v, cs = u ++ '[' :: v ∧ ']' ∉ v := by
  fun_induction readKeys segment ks cs with
  | case3 ks c cs hc before hcut =>
    obtain rfl : c = '[' := by simpa using hc
    refine ⟨[], cs, rfl, fun hm => ?_⟩
    obtain ⟨front, back, rfl, hfront⟩ := List.eq_append_cons_of_mem hm
    have hsome : Text.cutAt ']' (front ++ ']' :: back) = (front, some back) :=
      Text.cutAt_eq_some_iff.2 ⟨rfl, hfront⟩
    rw [hsome] at hcut
    cases hcut
  | case7 ks c cs hc group rest hg key value hk hne ks₁ hadd _ ih =>
    obtain ⟨u, v, rfl, hv⟩ := ih h
    obtain ⟨rfl, -⟩ := Text.cutAt_eq_some_iff.1 hg
    exact ⟨c :: (group ++ ']' :: u), v, by simp, hv⟩
  | _ => cases h

/-- A bracket that no bracket closes is not open in a balanced text. -/
theorem Balanced.mem_close (h : Balanced (u ++ '[' :: v)) : ']' ∈ v := by
  by_contra hv
  have hfront := h.opened u ⟨_, rfl⟩
  have hclosed := h.closed
  rw [List.count_append, List.count_append, List.count_cons_self,
    List.count_cons_of_ne (by decide), List.count_eq_zero.2 hv] at hclosed
  omega

/-- A text that is no element is empty, has keys without a name, or does not have keys behind its
name. -/
theorem readElement_eq_error {s : String} {e : Error} (h : readElement s = .error e) :
    e = .emptyElement ∧ s = "" ∨ e = .noName s ∨
      readKeys s .empty (s.toList.dropWhile (· ≠ '[')) = .error e := by
  unfold readElement at h
  dsimp only at h
  split at h
  · next hgroups =>
    split at h
    · next hname =>
      refine .inl ⟨(Except.error.inj h).symm, ?_⟩
      apply String.toList_inj.1
      rw [← List.takeWhile_append_dropWhile (p := (· ≠ '[')) (l := s.toList),
        List.isEmpty_iff.1 hname, List.isEmpty_iff.1 hgroups]
      rfl
    · cases h
  · split at h
    · exact .inr (.inl (Except.error.inj h).symm)
    · exact .inr (.inr (map_eq_error h))

theorem readElement_ne_emptyElement {s : String} (h : s ≠ "") :
    readElement s ≠ .error .emptyElement := by
  intro herror
  obtain ⟨-, hempty⟩ | hname | hkeys := readElement_eq_error herror
  · exact h hempty
  · cases hname
  · exact readKeys_ne_emptyElement hkeys

theorem readElement_ne_unclosedKey {s : String} (h : Balanced s.toList) (t : String) :
    readElement s ≠ .error (.unclosedKey t) := by
  intro herror
  obtain ⟨hempty, -⟩ | hname | hkeys := readElement_eq_error herror
  · cases hempty
  · cases hname
  · obtain ⟨u, v, hgroups, hv⟩ := exists_open_of_readKeys hkeys
    rw [← List.takeWhile_append_dropWhile (p := (· ≠ '[')) (l := s.toList), hgroups,
      ← List.append_assoc] at h
    exact hv h.mem_close

/-! ### Texts and their segments -/

theorem toList_intercalate_slash (ss : List String) :
    ("/".intercalate ss).toList = joinSegments (ss.map String.toList) := by
  induction ss with
  | nil => rfl
  | cons s ss ih =>
    by_cases h : ss = []
    · subst h
      simp [joinSegments]
    · rw [String.intercalate_cons_of_ne_nil h, List.map_cons, joinSegments_cons (by simpa using h),
        ← ih]
      simp

/-- What a text is made of: its segments, and slashes around them. -/
def Cut (a : String) (ss : List String) : Prop :=
  ∃ ps, joinSegments ps = a.toList ∧ ps.filter (fun p => !p.isEmpty) = ss.map String.toList

/-- A text is cut into segments exactly if its brackets are balanced, and nothing is lost then but
slashes. What a slash joins has the segments of both sides. Each segment has some text, balanced
brackets and no slash outside of them; segments are found again in the text that they make up; and
none is refused for being empty, or for a bracket that is left open. -/
theorem tokenize_append_slash :
    (∀ a : String, (∃ ss, tokenize a = .ok ss) ↔ Balanced a.toList) ∧
    (∀ (a b : String) (ss ts : List String), tokenize a = .ok ss → tokenize b = .ok ts →
      tokenize (a ++ "/" ++ b) = .ok (ss ++ ts)) ∧
    ∀ (a : String) (ss : List String), tokenize a = .ok ss →
      Cut a ss ∧ tokenize ("/".intercalate ss) = .ok ss ∧
      ∀ s ∈ ss, s ≠ "" ∧ Balanced s.toList ∧ Unbroken s.toList ∧
        readElement s ≠ .error .emptyElement ∧ ∀ t, readElement s ≠ .error (.unclosedKey t) := by
  refine ⟨fun a => ?_, fun a b ss ts ha hb => ?_, fun a ss ha => ?_⟩
  · rw [← exists_segments_iff]
    constructor
    · rintro ⟨ss, h⟩
      exact ⟨ss.map String.toList, tokenize_eq_ok_iff.1 h⟩
    · rintro ⟨ws, h⟩
      exact ⟨ws.map String.ofList, tokenize_eq_ok_iff.2 (by simpa [Function.comp_def] using h)⟩
  · rw [tokenize_eq_ok_iff] at ha hb ⊢
    simpa using segments_append_slash ha hb
  · rw [tokenize_eq_ok_iff] at ha
    refine ⟨?_, ?_, fun s hs => ?_⟩
    · obtain ⟨ps, hp, hfilter⟩ := map_eq_ok ha
      exact ⟨ps, joinSegments_pieces hp, hfilter⟩
    · rw [tokenize_eq_ok_iff, toList_intercalate_slash]
      exact segments_joinSegments ha
    · have hm : s.toList ∈ ss.map String.toList := List.mem_map_of_mem hs
      have hne : s ≠ "" := by simpa using ne_nil_of_mem_segments ha hm
      have hpiece := isPiece_of_mem_segments ha hm
      have hbalanced := hpiece.balanced
      exact ⟨hne, hbalanced, hpiece.unbroken, readElement_ne_emptyElement hne,
        readElement_ne_unclosedKey hbalanced⟩

/-- Texts with slashes at the ends and in brackets, and with brackets inside of brackets. -/
theorem tokenize_append_slash_nested :
    tokenize "/a[k=1/2]//b" = .ok ["a[k=1/2]", "b"] ∧ tokenize "c[[x]/y]/" = .ok ["c[[x]/y]"] ∧
      tokenize "/a[k=1/2]//b/c[[x]/y]/" = .ok ["a[k=1/2]", "b", "c[[x]/y]"] ∧
      Unbroken "c[[x]/y]".toList ∧
      ∀ t, readElement "c[[x]/y]" ≠ .error (.unclosedKey t) := by
  have ha : tokenize "/a[k=1/2]//b" = .ok ["a[k=1/2]", "b"] := tokenize_eq_ok_iff.2 rfl
  have hb : tokenize "c[[x]/y]/" = .ok ["c[[x]/y]"] := tokenize_eq_ok_iff.2 rfl
  obtain ⟨-, happend, hsegments⟩ := tokenize_append_slash
  obtain ⟨-, -, heach⟩ := hsegments _ _ hb
  obtain ⟨-, -, hunbroken, -, hclosed⟩ := heach _ List.mem_cons_self
  exact ⟨ha, hb, happend _ _ _ _ ha hb, hunbroken, hclosed⟩

end StateCheck.Path
