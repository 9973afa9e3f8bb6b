import Mathlib.Data.Finset.Dedup
import Mathlib.Logic.Relation
import StateCheck.Proofs.Path.Meaning
import StateCheck.Proofs.Sorting

/-!
Equality of paths and their texts. Two paths are the same exactly if their texts become the same
when neighboring groups of keys change places, and everything that a hash is taken of is decided
by the names and by the sets of keys with their values.
-/

namespace StateCheck.Path

variable {p q : Path} {e : Element} {as bs : List Element} {es fs : List (String × String)}
  {depth : Nat} {cs g h t u v w x y before after : List Char} {ps : List (List Char)}

/-! ### Groups that change places -/

/-- A text in brackets without brackets inside. -/
def IsGroup (g : List Char) : Prop :=
  ∃ body, g = '[' :: (body ++ [']']) ∧ ∀ c ∈ body, c ≠ '[' ∧ c ≠ ']'

/-- One text becomes the other when two groups change places of which one follows the other at
once; so they belong to the same element. -/
inductive Swap : List Char → List Char → Prop
  | groups {g h : List Char} (hg : IsGroup g) (hh : IsGroup h) (before after : List Char) :
      Swap (before ++ (g ++ (h ++ after))) (before ++ (h ++ (g ++ after)))

/-- One text becomes the other when groups are put in another order within their elements. -/
abbrev Regrouped : List Char → List Char → Prop := Relation.ReflTransGen Swap

theorem Swap.within (hs : Swap t u) (v w : List Char) : Swap (v ++ (t ++ w)) (v ++ (u ++ w)) := by
  obtain ⟨hg, hh, before, after⟩ := hs
  simpa using Swap.groups hg hh (v ++ before) (after ++ w)

theorem Regrouped.within (hr : Regrouped t u) (v w : List Char) :
    Regrouped (v ++ (t ++ w)) (v ++ (u ++ w)) :=
  hr.lift (fun cs => v ++ (cs ++ w)) fun _ _ hs => hs.within v w

theorem Regrouped.append_right (hr : Regrouped t u) (w : List Char) :
    Regrouped (t ++ w) (u ++ w) := hr.within [] w

theorem Regrouped.append_left (hr : Regrouped t u) (v : List Char) :
    Regrouped (v ++ t) (v ++ u) := by simpa using hr.within v []

/-- Groups of keys whose texts hold no further brackets. -/
def Plain (es : List (String × String)) : Prop := ∀ kv ∈ es, IsGroup (Element.groupText kv)

theorem Element.WellFormed.plain (he : e.WellFormed) : Plain e.keys.entries := by
  intro kv hkv
  refine ⟨kv.1.toList ++ '=' :: kv.2.toList, by simp [groupText], fun c hc => ?_⟩
  rcases List.mem_append.1 hc with hkey | hrest
  · exact (he.key_plain kv hkv c hkey).2
  · rcases List.mem_cons.1 hrest with rfl | hvalue
    · decide
    · exact he.value_plain kv hkv c hvalue

/-! ### The same path has a regrouped text -/

theorem regrouped_of_perm (hperm : es.Perm fs) (hplain : Plain es) :
    Regrouped (es.flatMap Element.groupText) (fs.flatMap Element.groupText) := by
  induction hperm with
  | nil => exact .refl
  | cons kv _ ih =>
    rw [List.flatMap_cons, List.flatMap_cons]
    apply Regrouped.append_left
    exact ih fun kv' hkv' => hplain kv' (List.mem_cons_of_mem _ hkv')
  | swap kv kv' es =>
    have hkv : IsGroup (Element.groupText kv) := hplain kv (by simp)
    have hkv' : IsGroup (Element.groupText kv') := hplain kv' (by simp)
    simp only [List.flatMap_cons]
    exact .single (Swap.groups hkv' hkv [] _)
  | trans hfirst _ ih ih' =>
    apply (ih hplain).trans
    exact ih' fun kv hkv => hplain kv (hfirst.mem_iff.2 hkv)

theorem Element.Same.regrouped {e' : Element} (hs : e.Same e') (he : e.WellFormed) :
    Regrouped e.chars e'.chars := by
  obtain ⟨hname, hkeys⟩ := hs
  rw [chars, chars, hname]
  exact (regrouped_of_perm hkeys he.plain).append_left _

theorem SameElements.regrouped (hs : SameElements as bs) (ha : ∀ a ∈ as, a.WellFormed) :
    Regrouped (joinSegments (as.map Element.chars)) (joinSegments (bs.map Element.chars)) := by
  induction as generalizing bs with
  | nil =>
    cases bs with
    | nil => exact .refl
    | cons b bs => exact hs.elim
  | cons a as ih =>
    cases bs with
    | nil => exact hs.elim
    | cons b bs =>
      obtain ⟨hab, hs⟩ := hs
      obtain ⟨hwell, has⟩ := List.forall_mem_cons.1 ha
      cases as with
      | nil =>
        cases bs with
        | nil => exact hab.regrouped hwell
        | cons b' bs => exact hs.elim
      | cons a' as =>
        cases bs with
        | nil => exact hs.elim
        | cons b' bs =>
          have hfirst := (hab.regrouped hwell).append_right
            ('/' :: joinSegments ((a' :: as).map Element.chars))
          have hrest := (ih hs has).append_left (b.chars ++ ['/'])
          simp only [List.map_cons, joinSegments, List.append_assoc, List.singleton_append]
            at hfirst hrest ⊢
          exact hfirst.trans hrest

/-! ### A swap in a text is a swap in a piece -/

/-- A group stays in one piece, wherever it stands. -/
theorem IsGroup.pieces (hg : IsGroup g) (depth : Nat) (cs : List Char) :
    pieces depth (g ++ cs) = (pieces depth cs).map (prepend g) := by
  obtain ⟨body, rfl, hbody⟩ := hg
  rw [List.cons_append, List.append_assoc, List.singleton_append, pieces_open,
    pieces_enclosed hbody, pieces_close, map_map, map_map]
  congr 1
  funext ps
  simp [prepend]

theorem prepend_cons (w p : List Char) (ps : List (List Char)) :
    prepend w (p :: ps) = (w ++ p) :: ps := by
  induction w with
  | nil => rfl
  | cons c w ih =>
    have hp : prepend (c :: w) (p :: ps) = pushChar c (prepend w (p :: ps)) := rfl
    rw [hp, ih]
    rfl

/-- Two groups that follow one another are in the same piece, and may change places there. -/
theorem pieces_swap (hg : IsGroup g) (hh : IsGroup h)
    (hp : pieces depth (before ++ (g ++ (h ++ after))) = .ok ps) :
    ∃ front x y back, ps = front ++ (x ++ (g ++ (h ++ y))) :: back ∧
      pieces depth (before ++ (h ++ (g ++ after))) =
        .ok (front ++ (x ++ (h ++ (g ++ y))) :: back) := by
  induction before generalizing depth ps with
  | nil =>
    rw [List.nil_append, hg.pieces, hh.pieces] at hp
    obtain ⟨qs, hq, rfl⟩ := map_eq_ok hp
    obtain ⟨rs, hr, rfl⟩ := map_eq_ok hq
    cases rs with
    | nil => exact absurd rfl (pieces_ne_nil hr)
    | cons y back =>
      refine ⟨[], [], y, back, ?_, ?_⟩
      · rw [prepend_cons, prepend_cons]
        rfl
      · rw [List.nil_append, hh.pieces, hg.pieces, hr, Except.map, Except.map, prepend_cons,
          prepend_cons]
        rfl
  | cons c before ih =>
    obtain ⟨rfl, rfl, qs, hq, rfl⟩ | ⟨next, qs, hq, rfl, hw, -⟩ := pieces_cases hp
    · obtain ⟨front, x, y, back, rfl, hswap⟩ := ih hq
      refine ⟨[] :: front, x, y, back, rfl, ?_⟩
      rw [List.cons_append, pieces_slash, hswap]
      rfl
    · obtain ⟨front, x, y, back, rfl, hswap⟩ := ih hq
      rw [List.cons_append, hw, hswap]
      cases front with
      | nil => exact ⟨[], c :: x, y, back, rfl, rfl⟩
      | cons p front => exact ⟨(c :: p) :: front, x, y, back, rfl, rfl⟩

/-! ### A swap in a piece is a swap of keys -/

/-- What stands in front of an opening bracket holds all that is free of them. -/
theorem exists_append_of_open (hw : '[' ∉ w) (h : w ++ t = u ++ '[' :: v) :
    ∃ x, u = w ++ x ∧ t = x ++ '[' :: v := by
  obtain ⟨x, hu, ht⟩ | ⟨x, hx, hv⟩ := List.append_eq_append_iff.1 h
  · exact ⟨x, hu, ht⟩
  · cases x with
    | nil => exact ⟨[], by simpa using hx.symm, by simpa using hv.symm⟩
    | cons c x =>
      obtain rfl : '[' = c := (List.cons.inj hv).1
      exact absurd (by simp [hx]) hw

/-- The group at the front of a run of groups is the first of them. -/
theorem groups_front (hplain : Plain es) (hg : IsGroup g)
    (h : es.flatMap Element.groupText = g ++ t) :
    ∃ kv fs, es = kv :: fs ∧ g = Element.groupText kv ∧ t = fs.flatMap Element.groupText := by
  obtain ⟨body, rfl, hbody⟩ := hg
  cases es with
  | nil => cases h
  | cons kv fs =>
    obtain ⟨inner, hkv, hinner⟩ := hplain kv List.mem_cons_self
    rw [List.flatMap_cons, hkv] at h
    simp only [List.cons_append, List.append_assoc, List.nil_append, List.cons.injEq, true_and]
      at h
    have hcut : Text.cutAt ']' (inner ++ ']' :: fs.flatMap Element.groupText) =
        (inner, some (fs.flatMap Element.groupText)) :=
      Text.cutAt_eq_some_iff.2 ⟨rfl, fun hm => (hinner _ hm).2 rfl⟩
    have hcut' : Text.cutAt ']' (body ++ ']' :: t) = (body, some t) :=
      Text.cutAt_eq_some_iff.2 ⟨rfl, fun hm => (hbody _ hm).2 rfl⟩
    rw [h, hcut'] at hcut
    cases hcut
    exact ⟨kv, fs, rfl, hkv.symm, rfl⟩

/-- Groups that follow one another in a run of groups are two of them. -/
theorem groups_swap (hplain : Plain es) (hg : IsGroup g) (hh : IsGroup h)
    (he : es.flatMap Element.groupText = x ++ (g ++ (h ++ y))) :
    ∃ front kv kv' back, es = front ++ kv :: kv' :: back ∧
      (front ++ kv' :: kv :: back).flatMap Element.groupText = x ++ (h ++ (g ++ y)) := by
  induction es generalizing x with
  | nil =>
    obtain ⟨body, rfl, -⟩ := hg
    simp at he
  | cons kv es ih =>
    cases x with
    | nil =>
      obtain ⟨kv, fs, hfs, rfl, hrest⟩ := groups_front hplain hg he
      have hplain' : Plain fs := fun kv' hkv' =>
        hplain kv' (hfs ▸ List.mem_cons_of_mem _ hkv')
      obtain ⟨kv', back, rfl, rfl, rfl⟩ := groups_front hplain' hh hrest.symm
      exact ⟨[], kv, kv', back, hfs, rfl⟩
    | cons c x =>
      obtain ⟨inner, hkv, hinner⟩ := hplain kv List.mem_cons_self
      obtain ⟨body, hbody, -⟩ := id hg
      rw [List.flatMap_cons, hkv] at he
      have hopen : '[' ∉ inner ++ [']'] := by
        simp only [List.mem_append, List.mem_singleton, not_or]
        exact ⟨fun hm => (hinner _ hm).1 rfl, by decide⟩
      simp only [List.cons_append, List.cons.injEq] at he
      obtain ⟨rfl, he⟩ := he
      have hfront : inner ++ [']'] ++ es.flatMap Element.groupText =
          x ++ '[' :: (body ++ [']'] ++ (h ++ y)) := by
        rw [he, hbody]
        rfl
      obtain ⟨x, rfl, hrest⟩ := exists_append_of_open hopen hfront
      have hes : es.flatMap Element.groupText = x ++ (g ++ (h ++ y)) := by
        rw [hrest, hbody]
        rfl
      obtain ⟨front, kv₁, kv₂, back, rfl, hswap⟩ :=
        ih (fun kv' hkv' => hplain kv' (List.mem_cons_of_mem _ hkv')) hes
      refine ⟨kv :: front, kv₁, kv₂, back, rfl, ?_⟩
      rw [List.cons_append, List.flatMap_cons, hswap, hkv]
      simp

/-- Two groups that follow one another in the text of an element are two of its keys. -/
theorem Element.WellFormed.swap (he : e.WellFormed) (hg : IsGroup g) (hh : IsGroup h)
    (hchars : e.chars = x ++ (g ++ (h ++ y))) :
    ∃ e' : Element, e.Same e' ∧ e'.chars = x ++ (h ++ (g ++ y)) := by
  obtain ⟨body, hbody, -⟩ := id hg
  have hname : '[' ∉ e.name.toList := he.readable.name_open
  have hsplit : e.name.toList ++ e.keys.entries.flatMap groupText =
      x ++ '[' :: (body ++ [']'] ++ (h ++ y)) := by
    rw [← chars, hchars, hbody]
    rfl
  obtain ⟨x, rfl, hgroups⟩ := exists_append_of_open hname hsplit
  have hkeys : e.keys.entries.flatMap groupText = x ++ (g ++ (h ++ y)) := by
    rw [hgroups, hbody]
    rfl
  obtain ⟨front, kv, kv', back, hentries, hswap⟩ := groups_swap he.plain hg hh hkeys
  have hperm : e.keys.entries.Perm (front ++ kv' :: kv :: back) := by
    rw [hentries]
    exact (List.Perm.swap kv' kv back).append_left front
  have hdistinct := (hperm.map Prod.fst).nodup_iff.1 e.keys.distinct
  refine ⟨⟨e.name, ⟨_, hdistinct⟩⟩, ⟨rfl, hperm⟩, ?_⟩
  rw [chars, hswap, List.append_assoc]

/-! ### A regrouped text is that of the same path -/

theorem SameElements.trans {cs : List Element} (hab : SameElements as bs)
    (hbc : SameElements bs cs) : SameElements as cs := by
  induction as generalizing bs cs with
  | nil =>
    cases bs with
    | nil => exact hbc
    | cons b bs => exact hab.elim
  | cons a as ih =>
    cases bs with
    | nil => exact hab.elim
    | cons b bs =>
      cases cs with
      | nil => exact hbc.elim
      | cons c cs =>
        obtain ⟨⟨hname, hkeys⟩, hab⟩ := hab
        obtain ⟨⟨hname', hkeys'⟩, hbc⟩ := hbc
        exact ⟨⟨hname.trans hname', hkeys.trans hkeys'⟩, ih hab hbc⟩

theorem SameElements.replace {e' : Element} (he : e.Same e') (front back : List Element) :
    SameElements (front ++ e :: back) (front ++ e' :: back) := by
  induction front with
  | nil => exact ⟨he, same_refl ⟨back⟩⟩
  | cons a front ih => exact ⟨⟨rfl, List.Perm.refl _⟩, ih⟩

theorem pieces_chars (hp : p.WellFormed) (hne : p.elements ≠ []) :
    pieces 0 p.chars = .ok ([] :: p.elements.map Element.chars) := by
  rw [chars, pieces_slash, pieces_joinSegments (by simpa using hne)]
  · rfl
  · exact List.forall_mem_map.2 fun e he => isPiece_chars (hp e he)

/-- A swap in the text of a path leads to the text of the same path. -/
theorem WellFormed.swap (hp : p.WellFormed) (hs : Swap p.chars u) :
    ∃ q : Path, p.Same q ∧ q.chars = u := by
  generalize ht : p.chars = t at hs
  obtain ⟨hg, hh, before, after⟩ := hs
  obtain ⟨body, hbody, -⟩ := id hg
  by_cases hne : p.elements = []
  · have hopen : '[' ∈ p.chars := by simp [ht, hbody]
    simp [chars, hne, joinSegments] at hopen
  · have hpieces := pieces_chars hp hne
    rw [ht] at hpieces
    obtain ⟨front, x, y, back, hfront, hswap⟩ := pieces_swap hg hh hpieces
    have hjoin := joinSegments_pieces hswap
    cases front with
    | nil => simp [hbody] at hfront
    | cons w front =>
      -- The empty piece is the one in front of the first slash.
      obtain ⟨rfl, hmap⟩ := List.cons.inj hfront
      obtain ⟨as, rest, hsplit, rfl, hrest⟩ := List.map_eq_append_iff.1 hmap
      obtain ⟨e, bs, rfl, hchars, rfl⟩ := List.map_eq_cons_iff.1 hrest
      have he : e.WellFormed := hp e (by simp [hsplit])
      obtain ⟨e', hsame, hchars'⟩ := he.swap hg hh hchars
      refine ⟨⟨as ++ e' :: bs⟩, ?_, ?_⟩
      · rw [Same, hsplit]
        exact SameElements.replace hsame as bs
      · rw [← hjoin, List.cons_append, joinSegments_cons (by simp), ← hchars', chars,
          List.map_append, List.map_cons]
        rfl

theorem Same.wellFormed (hs : p.Same q) (hp : p.WellFormed) : q.WellFormed :=
  SameElements.wellFormed hs hp

theorem WellFormed.regrouped (hp : p.WellFormed) (hr : Regrouped p.chars u) :
    ∃ q : Path, p.Same q ∧ q.chars = u := by
  induction hr with
  | refl => exact ⟨p, same_refl p, rfl⟩
  | tail _ hs ih =>
    obtain ⟨q, hpq, rfl⟩ := ih
    obtain ⟨q', hqq', hchars⟩ := (hpq.wellFormed hp).swap hs
    exact ⟨q', SameElements.trans hpq hqq', hchars⟩

theorem eq_of_chars_eq (hp : p.WellFormed) (hq : q.WellFormed) (h : p.chars = q.chars) :
    p = q := by
  have hsegments := segments_chars hp
  rw [h, segments_chars hq] at hsegments
  have helements := map_chars_inj hp hq (Except.ok.inj hsegments).symm
  cases p
  cases q
  exact congrArg Path.mk helements

/-- Well-formed paths are the same exactly if one has the text of the other but for the order of
the groups in its elements. -/
theorem same_iff_regrouped (hp : p.WellFormed) (hq : q.WellFormed) :
    p.Same q ↔ Regrouped p.chars q.chars := by
  constructor
  · intro hs
    exact (SameElements.regrouped hs hp).append_left ['/']
  · intro hr
    obtain ⟨q', hs, hchars⟩ := hp.regrouped hr
    rwa [← eq_of_chars_eq (hs.wellFormed hp) hq hchars]

/-! ### Hashes -/

/-- The names of a path, each with the set of its keys and their values. -/
def contents (p : Path) : List (String × Finset (String × String)) :=
  p.elements.map fun e => (e.name, e.keys.entries.toFinset)

theorem Element.same_iff {e' : Element} :
    e.Same e' ↔ (e.name, e.keys.entries.toFinset) = (e'.name, e'.keys.entries.toFinset) := by
  have hnodup (e : Element) : e.keys.entries.Nodup := e.keys.distinct.of_map
  rw [Prod.mk.injEq]
  apply and_congr_right
  intro _
  exact ⟨List.toFinset_eq_of_perm _ _, List.perm_of_nodup_nodup_toFinset_eq (hnodup e) (hnodup e')⟩

theorem sameElements_iff {β : Type} {f : Element → β}
    (hf : ∀ a b : Element, a.Same b ↔ f a = f b) :
    SameElements as bs ↔ as.map f = bs.map f := by
  induction as generalizing bs with
  | nil =>
    cases bs with
    | nil => exact iff_of_true trivial rfl
    | cons b bs => exact iff_of_false id nofun
  | cons a as ih =>
    cases bs with
    | nil => exact iff_of_false id nofun
    | cons b bs =>
      rw [List.map_cons, List.map_cons, List.cons.injEq, ← hf, ← ih]
      rfl

theorem same_iff_contents : p.Same q ↔ p.contents = q.contents :=
  sameElements_iff fun _ _ => Element.same_iff

theorem pairLe_iff (a b : String × String) : pairLe a b = true ↔ toLex a ≤ toLex b := by
  rw [Prod.Lex.toLex_le_toLex, le_iff_lt_or_eq (a := a.2)]
  simp [pairLe]

theorem Element.same_iff_sorted {e' : Element} : e.Same e' ↔
    (e.name, e.keys.entries.mergeSort pairLe) = (e'.name, e'.keys.entries.mergeSort pairLe) := by
  rw [Prod.mk.injEq]
  apply and_congr_right
  intro _
  constructor
  · exact sorted_eq_of_perm pairLe_iff
  · intro hsorted
    have hperm := List.mergeSort_perm e.keys.entries pairLe
    rw [hsorted] at hperm
    exact hperm.symm.trans (List.mergeSort_perm e'.keys.entries pairLe)

theorem same_iff_signature : p.Same q ↔ p.signature = q.signature :=
  sameElements_iff fun _ _ => Element.same_iff_sorted

/-- A hash of a path: each name is hashed with the set of its keys and their values, and these
hashes are hashed in their order. -/
def hashWith {H : Type} (ofElement : String → Finset (String × String) → H) (ofList : List H → H)
    (p : Path) : H := ofList (p.elements.map fun e => ofElement e.name e.keys.entries.toFinset)

theorem hashWith_eq {H : Type} (ofElement : String → Finset (String × String) → H)
    (ofList : List H → H) (p : Path) :
    p.hashWith ofElement ofList = ofList (p.contents.map fun c => ofElement c.1 c.2) := by
  rw [hashWith, contents, List.map_map]
  rfl

/-- Paths that have been read are the same exactly if the text of one becomes that of the other
when the groups within its elements are put in another order. Then they have the same hash,
whatever hashes are made of names, sets and lists: what a path is hashed by is decided by its names
and by the sets of its keys with their values. -/
theorem same_iff_of_read {s t : String} (hs : read s = .ok p) (ht : read t = .ok q) :
    (p.Same q ↔ Regrouped p.text.toList q.text.toList) ∧
    (p.Same q → p.signature = q.signature ∧
      ∀ (H : Type) (ofElement : String → Finset (String × String) → H) (ofList : List H → H),
        p.hashWith ofElement ofList = q.hashWith ofElement ofList) ∧
    (p.signature = q.signature ↔ p.contents = q.contents) := by
  have hp := (read_eq_ok_iff.1 hs).2
  have hq := (read_eq_ok_iff.1 ht).2
  refine ⟨?_, fun hsame => ⟨same_iff_signature.1 hsame, fun H ofElement ofList => ?_⟩, ?_⟩
  · rw [text, text, String.toList_ofList, String.toList_ofList]
    exact same_iff_regrouped hp hq
  · rw [hashWith_eq, hashWith_eq, same_iff_contents.1 hsame]
  · rw [← same_iff_signature, same_iff_contents]

/-- A path of an element and of one without keys. -/
def keyed (e : Element) : Path := ⟨[e, ⟨"b", .empty⟩]⟩

def slashFirst : Element := ⟨"a", ⟨[("k", "1/2"), ("j", "x=y")], by decide⟩⟩

def equalsFirst : Element := ⟨"a", ⟨[("j", "x=y"), ("k", "1/2")], by decide⟩⟩

theorem wellFormed_keyed :
    (keyed slashFirst).WellFormed ∧ (keyed equalsFirst).WellFormed := by
  simp [WellFormed, keyed, slashFirst, equalsFirst, Element.wellFormed_iff, Table.empty,
    -Prod.forall]

/-- Keys in another order, with a slash and an equals sign in their values. -/
theorem same_of_read_reordered :
    read "/a[k=1/2][j=x=y]/b" = .ok (keyed slashFirst) ∧
    read "a[j=x=y][k=1/2]//b" = .ok (keyed equalsFirst) ∧
    (keyed slashFirst).Same (keyed equalsFirst) ∧
    Regrouped "/a[k=1/2][j=x=y]/b".toList "/a[j=x=y][k=1/2]/b".toList ∧
    (keyed slashFirst).signature = (keyed equalsFirst).signature := by
  have hs : read "/a[k=1/2][j=x=y]/b" = .ok (keyed slashFirst) :=
    read_eq_ok_iff.2 ⟨rfl, wellFormed_keyed.1⟩
  have ht : read "a[j=x=y][k=1/2]//b" = .ok (keyed equalsFirst) :=
    read_eq_ok_iff.2 ⟨rfl, wellFormed_keyed.2⟩
  obtain ⟨hregrouped, hhash, -⟩ := same_iff_of_read hs ht
  have hswap : Swap "/a[k=1/2][j=x=y]/b".toList "/a[j=x=y][k=1/2]/b".toList :=
    Swap.groups (g := "[k=1/2]".toList) (h := "[j=x=y]".toList)
      ⟨"k=1/2".toList, rfl, by simp⟩ ⟨"j=x=y".toList, rfl, by simp⟩ "/a".toList "/b".toList
  have hsame : (keyed slashFirst).Same (keyed equalsFirst) := hregrouped.2 (.single hswap)
  exact ⟨hs, ht, hsame, hregrouped.1 hsame, (hhash hsame).1⟩

end StateCheck.Path
