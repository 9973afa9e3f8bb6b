import Mathlib.Algebra.GroupWithZero.Nat
import StateCheck.Proofs.Path.Elements

/-!
Paths that are read back from their own texts.
-/

namespace StateCheck.Path

namespace Element

/-- Which characters the texts of an element may hold: nothing is escaped, so a name is free of
slashes and brackets, a key of equals signs and brackets, and a value of brackets. -/
structure WellFormed (e : Element) : Prop where
  name_ne_empty : e.name ≠ ""
  name_plain : ∀ c ∈ e.name.toList, c ≠ '/' ∧ c ≠ '[' ∧ c ≠ ']'
  key_ne_empty : ∀ kv ∈ e.keys.entries, kv.1 ≠ ""
  key_plain : ∀ kv ∈ e.keys.entries, ∀ c ∈ kv.1.toList, c ≠ '=' ∧ c ≠ '[' ∧ c ≠ ']'
  value_plain : ∀ kv ∈ e.keys.entries, ∀ c ∈ kv.2.toList, c ≠ '[' ∧ c ≠ ']'

theorem wellFormed_iff {e : Element} : e.WellFormed ↔
    (e.name ≠ "" ∧ ∀ c ∈ e.name.toList, c ≠ '/' ∧ c ≠ '[' ∧ c ≠ ']') ∧
    ∀ kv ∈ e.keys.entries, kv.1 ≠ "" ∧ (∀ c ∈ kv.1.toList, c ≠ '=' ∧ c ≠ '[' ∧ c ≠ ']') ∧
      ∀ c ∈ kv.2.toList, c ≠ '[' ∧ c ≠ ']' := by
  constructor
  · intro h
    exact ⟨⟨h.name_ne_empty, h.name_plain⟩,
      fun kv hkv => ⟨h.key_ne_empty kv hkv, h.key_plain kv hkv, h.value_plain kv hkv⟩⟩
  · rintro ⟨⟨hn, hp⟩, hg⟩
    exact ⟨hn, hp, fun kv hkv => (hg kv hkv).1, fun kv hkv => (hg kv hkv).2.1,
      fun kv hkv => (hg kv hkv).2.2⟩

theorem WellFormed.readable {e : Element} (h : e.WellFormed) : e.Readable where
  name_ne_empty := h.name_ne_empty
  name_open hm := (h.name_plain _ hm).2.1 rfl
  groups kv hkv :=
    ⟨h.key_ne_empty kv hkv, fun hm => (h.key_plain kv hkv _ hm).1 rfl,
      fun hm => (h.key_plain kv hkv _ hm).2.2 rfl, fun hm => (h.value_plain kv hkv _ hm).2 rfl⟩

end Element

theorem pieces_group {kv : String × String} (h : ∀ c ∈ kv.1.toList ++ '=' :: kv.2.toList,
      c ≠ '[' ∧ c ≠ ']') (cs : List Char) :
    pieces 0 (Element.groupText kv ++ cs) = (pieces 0 cs).map (prepend (Element.groupText kv)) := by
  rw [groupText_append, List.cons_append, pieces_open, pieces_enclosed h, pieces_close, map_map,
    map_map]
  congr 1
  funext ps
  rw [← List.append_nil (Element.groupText kv), groupText_append, List.cons_append]
  simp only [Function.comp_apply, prepend, List.foldr_cons, List.foldr_append, List.foldr_nil]

theorem pieces_groups {es : List (String × String)}
    (h : ∀ kv ∈ es, ∀ c ∈ kv.1.toList ++ '=' :: kv.2.toList, c ≠ '[' ∧ c ≠ ']') :
    pieces 0 (es.flatMap Element.groupText) = .ok [es.flatMap Element.groupText] := by
  induction es with
  | nil => rfl
  | cons e es ih =>
    obtain ⟨he, hes⟩ := List.forall_mem_cons.1 h
    rw [List.flatMap_cons, pieces_group he, ih hes, Except.map, ← prepend_nil, ← prepend_append,
      prepend_nil]

theorem isPiece_chars {e : Element} (h : e.WellFormed) : IsPiece e.chars := by
  have hg : ∀ kv ∈ e.keys.entries, ∀ c ∈ kv.1.toList ++ '=' :: kv.2.toList,
      c ≠ '[' ∧ c ≠ ']' := by
    intro kv hkv c hc
    rcases List.mem_append.1 hc with hc | hc
    · exact (h.key_plain kv hkv c hc).2
    · rcases List.mem_cons.1 hc with rfl | hc
      · decide
      · exact h.value_plain kv hkv c hc
  rw [IsPiece, Element.chars, pieces_plain h.name_plain, pieces_groups hg, Except.map,
    ← prepend_nil, ← prepend_append, prepend_nil]

/-- Every group closes one bracket and opens one more than it holds inside. -/
theorem count_groups {es : List (String × String)} (h : ∀ kv ∈ es, GroupReadable kv) :
    (es.flatMap Element.groupText).count '[' = (es.flatMap Element.groupText).count ']' +
      (es.map fun kv => kv.1.toList.count '[' + kv.2.toList.count '[').sum := by
  induction es with
  | nil => rfl
  | cons e es ih =>
    obtain ⟨he, hes⟩ := List.forall_mem_cons.1 h
    have hk : e.1.toList.count ']' = 0 := List.count_eq_zero.2 he.key_close
    have hv : e.2.toList.count ']' = 0 := List.count_eq_zero.2 he.value_close
    have ht := ih hes
    simp only [List.flatMap_cons, List.count_append, List.map_cons, List.sum_cons,
      Element.groupText, List.count_cons, List.count_nil, hk, hv]
    simp only [beq_iff_eq, Char.reduceEq, if_true, if_false]
    omega

/-- The brackets of a piece match, which leaves none for the inside of its groups. -/
theorem wellFormed_of_isPiece {e : Element} (hr : e.Readable) (hp : IsPiece e.chars) :
    e.WellFormed := by
  have hname := plain_of_isPiece hp hr.name_open
  have hcount := count_brackets hp
  have hno : e.name.toList.count '[' = 0 := List.count_eq_zero.2 hr.name_open
  have hnc : e.name.toList.count ']' = 0 :=
    List.count_eq_zero.2 fun hm => (hname _ hm).2.2 rfl
  rw [Element.chars, List.count_append, List.count_append, hno, hnc,
    count_groups hr.groups] at hcount
  -- All opening brackets of the groups are used up by their own closing ones.
  have hsum : (e.keys.entries.map fun kv =>
      kv.1.toList.count '[' + kv.2.toList.count '[').sum = 0 := by omega
  have hopen : ∀ kv ∈ e.keys.entries, '[' ∉ kv.1.toList ∧ '[' ∉ kv.2.toList := by
    intro kv hkv
    have hz := List.sum_eq_zero_iff_forall_eq_nat.1 hsum _ (List.mem_map_of_mem hkv)
    exact ⟨List.count_eq_zero.1 (by omega), List.count_eq_zero.1 (by omega)⟩
  refine ⟨hr.name_ne_empty, hname, fun kv hkv => (hr.groups kv hkv).key_ne_empty, ?_, ?_⟩
  · intro kv hkv c hc
    refine ⟨?_, ?_, ?_⟩
    · rintro rfl; exact (hr.groups kv hkv).key_equals hc
    · rintro rfl; exact (hopen kv hkv).1 hc
    · rintro rfl; exact (hr.groups kv hkv).key_close hc
  · intro kv hkv c hc
    refine ⟨?_, ?_⟩
    · rintro rfl; exact (hopen kv hkv).2 hc
    · rintro rfl; exact (hr.groups kv hkv).value_close hc

/-! ### Whole paths -/

/-- A path of elements whose texts keep apart. -/
def WellFormed (p : Path) : Prop := ∀ e ∈ p.elements, e.WellFormed

theorem tokenize_eq_ok_iff {path : String} {ss : List String} :
    tokenize path = .ok ss ↔ segments path.toList = .ok (ss.map String.toList) := by
  have hmap : ∀ ws : List (List Char), ws.map String.ofList = ss ↔ ws = ss.map String.toList := by
    intro ws
    constructor
    · rintro rfl
      simp [Function.comp_def]
    · rintro rfl
      simp [Function.comp_def]
  unfold tokenize
  cases hs : segments path.toList with
  | ok ws => simpa using hmap ws
  | error e => cases e <;> simp

theorem readElements_eq_ok_iff {ss : List String} {es : List Element} :
    readElements ss = .ok es ↔
      ss.map String.toList = es.map Element.chars ∧ ∀ e ∈ es, e.Readable := by
  induction ss generalizing es with
  | nil =>
    cases es with
    | nil => simp [readElements]
    | cons e es => simp [readElements]
  | cons s ss ih =>
    have hbind : readElements (s :: ss) = .ok es ↔
        ∃ e es', readElement s = .ok e ∧ readElements ss = .ok es' ∧ es = e :: es' := by
      cases hs : readElement s <;> cases hss : readElements ss <;>
        simp [readElements, hs, hss, bind, Except.bind, eq_comm]
    rw [hbind]
    constructor
    · rintro ⟨e, es, he, hes, rfl⟩
      obtain ⟨hc, hr⟩ := readElement_eq_ok_iff.1 he
      obtain ⟨hcs, hrs⟩ := ih.1 hes
      exact ⟨by simp only [List.map_cons, hc, hcs], List.forall_mem_cons.2 ⟨hr, hrs⟩⟩
    · rintro ⟨hc, hr⟩
      cases es with
      | nil => simp at hc
      | cons e es =>
        simp only [List.map_cons, List.cons.injEq] at hc
        obtain ⟨hr₁, hr₂⟩ := List.forall_mem_cons.1 hr
        exact ⟨e, es, readElement_eq_ok_iff.2 ⟨hc.1, hr₁⟩, ih.2 ⟨hc.2, hr₂⟩, rfl⟩

theorem isPiece_of_mem_segments {cs w : List Char} {ws : List (List Char)}
    (h : segments cs = .ok ws) (hw : w ∈ ws) : IsPiece w := by
  obtain ⟨ps, hp, rfl⟩ := map_eq_ok h
  exact isPiece_of_mem hp ((List.mem_filter.1 hw).1)

/-- The segments of a text are the texts of well-formed elements exactly if it is read as the path
of these elements. -/
theorem read_eq_ok_iff {path : String} {p : Path} : read path = .ok p ↔
    segments path.toList = .ok (p.elements.map Element.chars) ∧ p.WellFormed := by
  have hbind : read path = .ok p ↔
      ∃ ss, tokenize path = .ok ss ∧ readElements ss = .ok p.elements := by
    cases p
    cases ht : tokenize path with
    | error e => simp [read, ht, bind, Except.bind]
    | ok ss => cases hr : readElements ss <;> simp [read, ht, hr, bind, Except.bind]
  rw [hbind]
  constructor
  · rintro ⟨ss, ht, hr⟩
    obtain ⟨hc, he⟩ := readElements_eq_ok_iff.1 hr
    have hs := tokenize_eq_ok_iff.1 ht
    rw [hc] at hs
    exact ⟨hs, fun e hm =>
      wellFormed_of_isPiece (he e hm) (isPiece_of_mem_segments hs (List.mem_map_of_mem hm))⟩
  · rintro ⟨hs, hp⟩
    have hc : (p.elements.map Element.text).map String.toList = p.elements.map Element.chars := by
      simp [Element.text, Function.comp_def]
    exact ⟨p.elements.map Element.text, tokenize_eq_ok_iff.2 (by rw [hs, hc]),
      readElements_eq_ok_iff.2 ⟨hc, fun e hm => (hp e hm).readable⟩⟩

theorem chars_ne_nil {e : Element} (h : e.WellFormed) : e.chars ≠ [] := by
  have hn : e.name.toList ≠ [] := by simpa using h.name_ne_empty
  simp [Element.chars, hn]

theorem segments_chars {p : Path} (h : p.WellFormed) :
    segments p.chars = .ok (p.elements.map Element.chars) := by
  have hf : (p.elements.map Element.chars).filter (fun w => !w.isEmpty) =
      p.elements.map Element.chars := by
    refine List.filter_eq_self.2 fun w hw => ?_
    obtain ⟨e, he, rfl⟩ := List.mem_map.1 hw
    simpa using chars_ne_nil (h e he)
  rw [segments, chars, pieces_slash]
  by_cases hne : p.elements = []
  · rw [hne]
    rfl
  · rw [pieces_joinSegments (by simpa using hne)
      (List.forall_mem_map.2 fun e he => isPiece_chars (h e he))]
    simpa [Except.map] using hf

theorem SameElements.wellFormed {as bs : List Element} (hs : SameElements as bs)
    (h : ∀ a ∈ as, a.WellFormed) : ∀ b ∈ bs, b.WellFormed := by
  induction as generalizing bs with
  | nil =>
    cases bs with
    | nil => simp
    | cons b bs => exact hs.elim
  | cons a as ih =>
    cases bs with
    | nil => exact hs.elim
    | cons b bs =>
      obtain ⟨⟨hn, hk⟩, hs⟩ := hs
      obtain ⟨ha, has⟩ := List.forall_mem_cons.1 h
      refine List.forall_mem_cons.2 ⟨?_, ih hs has⟩
      rw [Element.wellFormed_iff] at ha ⊢
      rw [← hn]
      exact ⟨ha.1, fun kv hkv => ha.2 kv (hk.mem_iff.2 hkv)⟩

theorem same_refl (p : Path) : p.Same p := by
  unfold Same
  induction p.elements with
  | nil => trivial
  | cons e es ih => exact ⟨⟨rfl, List.Perm.refl _⟩, ih⟩

/-- Reading undoes writing exactly on the well-formed paths, and these are all that reading
returns; so what has been read once is read back as it is, the order of its keys included. -/
theorem read_text_iff_wellFormed :
    (∀ p : Path, (∃ q, read p.text = .ok q ∧ q.Same p) ↔ p.WellFormed) ∧
      ∀ (s : String) (p : Path), read s = .ok p → p.WellFormed ∧ read p.text = .ok p := by
  have hback : ∀ p : Path, p.WellFormed → read p.text = .ok p := by
    intro p hp
    exact read_eq_ok_iff.2 ⟨by rw [text, String.toList_ofList, segments_chars hp], hp⟩
  refine ⟨fun p => ⟨?_, fun hp => ⟨p, hback p hp, same_refl p⟩⟩, ?_⟩
  · rintro ⟨q, hq, hs⟩
    exact SameElements.wellFormed hs (read_eq_ok_iff.1 hq).2
  · intro s p h
    have hp := (read_eq_ok_iff.1 h).2
    exact ⟨hp, hback p hp⟩

/-- Slashes inside of brackets and equals signs in values are kept, empty segments are not. -/
theorem read_text_slash_in_key :
    ∃ p : Path, read "//a[k=1/2=3]/" = .ok p ∧ p.WellFormed ∧ read p.text = .ok p := by
  have h : read "//a[k=1/2=3]/" = .ok ⟨[⟨"a", ⟨[("k", "1/2=3")], by decide⟩⟩]⟩ :=
    read_eq_ok_iff.2 ⟨rfl, by simp [WellFormed, Element.wellFormed_iff]⟩
  exact ⟨_, h, read_text_iff_wellFormed.2 _ _ h⟩

end StateCheck.Path
