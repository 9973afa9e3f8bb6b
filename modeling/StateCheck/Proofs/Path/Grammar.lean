import StateCheck.Proofs.Path.RoundTrip

/-!
The grammar of path texts, given apart from the way in which they are read.
-/

namespace StateCheck.Path

/-- A key and its value in brackets; the value starts behind the first equals sign. -/
inductive Group : List Char → String × String → Prop
  | mk (key value : List Char) (hne : key ≠ []) (hk : ∀ c ∈ key, c ≠ '=' ∧ c ≠ '[' ∧ c ≠ ']')
      (hv : ∀ c ∈ value, c ≠ '[' ∧ c ≠ ']') :
      Group (['['] ++ key ++ ['='] ++ value ++ [']']) (String.ofList key, String.ofList value)

inductive Groups : List Char → List (String × String) → Prop
  | nil : Groups [] []
  | cons {g gs : List Char} {kv : String × String} {kvs : List (String × String)}
      (head : Group g kv) (tail : Groups gs kvs) : Groups (g ++ gs) (kv :: kvs)

/-- A name and groups behind it, of which no two have the same key. -/
inductive Segment : List Char → Element → Prop
  | mk (name : List Char) {gs : List Char} {kvs : List (String × String)}
      (hd : (kvs.map Prod.fst).Nodup) (hne : name ≠ [])
      (hn : ∀ c ∈ name, c ≠ '/' ∧ c ≠ '[' ∧ c ≠ ']') (hg : Groups gs kvs) :
      Segment (name ++ gs) ⟨String.ofList name, ⟨kvs, hd⟩⟩

/-- A sequence of segments with slashes between them, where a segment may be empty. Only the
others stand for elements. -/
inductive Spells : List Char → List Element → Prop
  | nothing : Spells [] []
  | last {w : List Char} {e : Element} (head : Segment w e) : Spells w [e]
  | skip {cs : List Char} {es : List Element} (tail : Spells cs es) : Spells ('/' :: cs) es
  | more {w cs : List Char} {e : Element} {es : List Element} (head : Segment w e)
      (tail : Spells cs es) : Spells (w ++ ['/'] ++ cs) (e :: es)

/-! ### Segments -/

theorem group_iff {g : List Char} {kv : String × String} : Group g kv ↔
    g = Element.groupText kv ∧ kv.1 ≠ "" ∧
      (∀ c ∈ kv.1.toList, c ≠ '=' ∧ c ≠ '[' ∧ c ≠ ']') ∧ ∀ c ∈ kv.2.toList, c ≠ '[' ∧ c ≠ ']' := by
  constructor
  · rintro ⟨key, value, hne, hk, hv⟩
    refine ⟨by simp [Element.groupText], by simpa using hne, ?_, ?_⟩
    · simpa using hk
    · simpa using hv
  · rintro ⟨rfl, hne, hk, hv⟩
    have h := Group.mk kv.1.toList kv.2.toList (by simpa using hne) hk hv
    simpa [Element.groupText] using h

theorem groups_iff {gs : List Char} {kvs : List (String × String)} : Groups gs kvs ↔
    gs = kvs.flatMap Element.groupText ∧ ∀ kv ∈ kvs, kv.1 ≠ "" ∧
      (∀ c ∈ kv.1.toList, c ≠ '=' ∧ c ≠ '[' ∧ c ≠ ']') ∧ ∀ c ∈ kv.2.toList, c ≠ '[' ∧ c ≠ ']' := by
  constructor
  · intro h
    induction h with
    | nil => simp
    | cons head tail ih =>
      obtain ⟨rfl, hkv⟩ := group_iff.1 head
      obtain ⟨rfl, hkvs⟩ := ih
      exact ⟨List.flatMap_cons.symm, List.forall_mem_cons.2 ⟨hkv, hkvs⟩⟩
  · rintro ⟨rfl, h⟩
    induction kvs with
    | nil => exact .nil
    | cons kv kvs ih =>
      obtain ⟨hkv, hkvs⟩ := List.forall_mem_cons.1 h
      rw [List.flatMap_cons]
      exact .cons (group_iff.2 ⟨rfl, hkv⟩) (ih hkvs)

/-- The segment for an element is its text, if the element is well-formed. -/
theorem segment_iff {w : List Char} {e : Element} : Segment w e ↔ w = e.chars ∧ e.WellFormed := by
  rw [Element.wellFormed_iff]
  constructor
  · rintro ⟨name, hd, hne, hn, hg⟩
    obtain ⟨rfl, hkvs⟩ := groups_iff.1 hg
    exact ⟨by simp [Element.chars], ⟨by simpa using hne, by simpa using hn⟩, hkvs⟩
  · rintro ⟨rfl, ⟨hne, hn⟩, hkvs⟩
    have h := Segment.mk e.name.toList e.keys.distinct (by simpa using hne) hn
      (groups_iff.2 ⟨rfl, hkvs⟩)
    rwa [String.ofList_toList] at h

/-! ### Sequences -/

theorem segments_slash (cs : List Char) : segments ('/' :: cs) = segments cs := by
  rw [segments, segments, pieces_slash, map_map]
  congr 1

theorem segments_more {w : List Char} {e : Element} (h : Segment w e) (cs : List Char) :
    segments (w ++ ['/'] ++ cs) = (segments cs).map (e.chars :: ·) := by
  obtain ⟨rfl, he⟩ := segment_iff.1 h
  have hne : e.chars.isEmpty = false := by simpa using chars_ne_nil he
  rw [segments, segments, List.append_assoc, List.singleton_append,
    pieces_append (isPiece_chars he), map_map, map_map]
  congr 1
  funext ps
  simp [hne]

theorem segments_of_spells {cs : List Char} {es : List Element} (h : Spells cs es) :
    segments cs = .ok (es.map Element.chars) ∧ ∀ e ∈ es, e.WellFormed := by
  induction h with
  | nothing => exact ⟨rfl, by simp⟩
  | @last w e head =>
    obtain ⟨rfl, he⟩ := segment_iff.1 head
    have hp : IsPiece e.chars := isPiece_chars he
    refine ⟨?_, by simpa using he⟩
    rw [segments, hp]
    simpa [Except.map] using chars_ne_nil he
  | skip tail ih => rwa [segments_slash]
  | @more w cs e es head tail ih =>
    refine ⟨?_, List.forall_mem_cons.2 ⟨(segment_iff.1 head).2, ih.2⟩⟩
    rw [segments_more head, ih.1]
    rfl

theorem spells_joinSegments {ps : List (List Char)} {es : List Element} (hne : ps ≠ [])
    (h : ps.filter (fun p => !p.isEmpty) = es.map Element.chars)
    (he : ∀ e ∈ es, e.WellFormed) : Spells (joinSegments ps) es := by
  induction ps generalizing es with
  | nil => exact absurd rfl hne
  | cons p ps ih =>
    cases p with
    | nil =>
      simp only [List.filter_cons, List.isEmpty_nil, Bool.not_true, Bool.false_eq_true,
        if_false] at h
      cases ps with
      | nil =>
        obtain rfl : es = [] := by simpa using h.symm
        exact .nothing
      | cons q qs => exact .skip (ih (by simp) h he)
    | cons c p =>
      cases es with
      | nil => simp at h
      | cons e es =>
        simp only [List.filter_cons, List.isEmpty_cons, Bool.not_false, if_true, List.map_cons,
          List.cons.injEq] at h
        obtain ⟨hw, hws⟩ := List.forall_mem_cons.1 he
        have head : Segment (c :: p) e := segment_iff.2 ⟨h.1, hw⟩
        cases ps with
        | nil =>
          obtain rfl : es = [] := by simpa using h.2.symm
          exact .last head
        | cons q qs =>
          have hs := Spells.more head (ih (by simp) h.2 hws)
          rwa [joinSegments_cons (by simp), List.append_cons]

theorem spells_iff {cs : List Char} {es : List Element} : Spells cs es ↔
    segments cs = .ok (es.map Element.chars) ∧ ∀ e ∈ es, e.WellFormed := by
  constructor
  · exact segments_of_spells
  · rintro ⟨hs, he⟩
    obtain ⟨ps, hp, hf⟩ := map_eq_ok hs
    rw [← joinSegments_pieces hp]
    exact spells_joinSegments (pieces_ne_nil hp) hf he

/-- A text is read as the elements that it spells, and a text that spells none is refused as a
malformed path. -/
theorem read_eq_ok_iff_spells (s : String) :
    (∀ p : Path, read s = .ok p ↔ Spells s.toList p.elements) ∧
      ((¬∃ es, Spells s.toList es) ↔
        ∃ e : Error, read s = .error e ∧ e.failure.kind = .malformedPath) := by
  have hok : ∀ p : Path, read s = .ok p ↔ Spells s.toList p.elements := fun p => by
    rw [read_eq_ok_iff, spells_iff, WellFormed]
  refine ⟨hok, ?_, ?_⟩
  · intro h
    cases hr : read s with
    | ok p => exact absurd ⟨p.elements, (hok p).1 hr⟩ h
    | error e => exact ⟨e, rfl, rfl⟩
  · rintro ⟨e, he, -⟩ ⟨es, hes⟩
    have hr := (hok ⟨es⟩).2 hes
    rw [he] at hr
    cases hr

end StateCheck.Path
