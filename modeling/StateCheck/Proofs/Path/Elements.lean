import StateCheck.Proofs.Path.Segments
import StateCheck.Proofs.Table

/-!
Which texts are read as which elements.
-/

namespace StateCheck

theorem Text.cutAt_eq_some_iff {d : Char} {cs before after : List Char} :
    Text.cutAt d cs = (before, some after) ↔ cs = before ++ d :: after ∧ d ∉ before := by
  induction cs generalizing before with
  | nil => simp [Text.cutAt]
  | cons c cs ih =>
    by_cases hc : c = d
    · subst c
      cases before with
      | nil => simp [Text.cutAt]
      | cons b before => simp [Text.cutAt]; rintro rfl; simp
    · cases before with
      | nil => simp [Text.cutAt, hc]
      | cons b before =>
        have hi := @ih before
        simp only [Prod.ext_iff] at hi
        simp only [Text.cutAt, hc, if_false, Prod.mk.injEq, List.cons.injEq, List.cons_append,
          List.mem_cons, not_or]
        constructor
        · rintro ⟨⟨rfl, hb⟩, ha⟩
          obtain ⟨hcs, hd⟩ := hi.1 ⟨hb, ha⟩
          exact ⟨⟨rfl, hcs⟩, Ne.symm hc, hd⟩
        · rintro ⟨⟨rfl, hcs⟩, -, hd⟩
          obtain ⟨hb, ha⟩ := hi.2 ⟨hcs, hd⟩
          exact ⟨⟨rfl, hb⟩, ha⟩

namespace Path

/-- What a key and its value must be to be read back from a group in brackets. -/
structure GroupReadable (e : String × String) : Prop where
  key_ne_empty : e.1 ≠ ""
  key_equals : '=' ∉ e.1.toList
  key_close : ']' ∉ e.1.toList
  value_close : ']' ∉ e.2.toList

theorem groupText_append (e : String × String) (cs : List Char) :
    Element.groupText e ++ cs = '[' :: (e.1.toList ++ '=' :: e.2.toList) ++ ']' :: cs := by
  simp [Element.groupText]

theorem readKeys_group {segment : String} {ks ks' : Keys} {e : String × String}
    (he : GroupReadable e) (hk : ks.add? e.1 e.2 = some ks') (cs : List Char) :
    readKeys segment ks (Element.groupText e ++ cs) = readKeys segment ks' cs := by
  have hgroup : Text.cutAt ']' (e.1.toList ++ '=' :: e.2.toList ++ ']' :: cs) =
      (e.1.toList ++ '=' :: e.2.toList, some cs) :=
    Text.cutAt_eq_some_iff.2 ⟨rfl, by simp [he.key_close, he.value_close]⟩
  have hkey : Text.cutAt '=' (e.1.toList ++ '=' :: e.2.toList) = (e.1.toList, some e.2.toList) :=
    Text.cutAt_eq_some_iff.2 ⟨rfl, he.key_equals⟩
  have hne : e.1.toList.isEmpty = false := by simpa using he.key_ne_empty
  rw [groupText_append, List.cons_append, readKeys, if_neg (by simp)]
  split
  · next h => rw [hgroup] at h; cases h
  · next group rest h =>
    rw [hgroup] at h
    cases h
    simp [hkey, hne, hk]

/-- Keys are read from a run of groups and nothing else. -/
theorem readKeys_eq_ok_iff {segment : String} {ks ks' : Keys} {cs : List Char} :
    readKeys segment ks cs = .ok ks' ↔ ∃ es, ks'.entries = ks.entries ++ es ∧
      cs = es.flatMap Element.groupText ∧ ∀ e ∈ es, GroupReadable e := by
  constructor
  · intro h
    fun_induction readKeys segment ks cs with
    | case1 ks => cases h; exact ⟨[], by simp⟩
    -- In all other cases but that of no group the reading fails.
    | case7 ks c cs hc group rest hg key value hk hne ks₁ hadd _ ih =>
      obtain ⟨es, hes, rfl, hr⟩ := ih h
      obtain ⟨rfl, hgroup⟩ := Text.cutAt_eq_some_iff.1 hg
      obtain ⟨rfl, hkey⟩ := Text.cutAt_eq_some_iff.1 hk
      obtain rfl : c = '[' := by simpa using hc
      simp only [List.mem_append, List.mem_cons, not_or] at hgroup
      refine ⟨(String.ofList key, String.ofList value) :: es, ?_, ?_, ?_⟩
      · rw [hes, Table.add?_eq_some_iff.1 hadd]
        simp
      · simp [Element.groupText]
      · refine List.forall_mem_cons.2 ⟨⟨?_, ?_, ?_, ?_⟩, hr⟩
        · simpa using hne
        · simpa using hkey
        · simpa using hgroup.1
        · simpa using hgroup.2.2
    | _ => cases h
  · rintro ⟨es, hes, rfl, hg⟩
    induction es generalizing ks with
    | nil =>
      rw [List.flatMap_nil, readKeys]
      exact congrArg Except.ok (Table.ext (by simp [hes]))
    | cons e es ih =>
      obtain ⟨he, hes'⟩ := List.forall_mem_cons.1 hg
      have hd := ks'.distinct
      rw [hes, List.append_cons, List.map_append] at hd
      have hk : ks.add? e.1 e.2 = some ⟨ks.entries ++ [e], (List.nodup_append.1 hd).1⟩ :=
        Table.add?_eq_some_iff.2 rfl
      rw [List.flatMap_cons, readKeys_group he hk]
      exact ih (by simp [hes]) hes'

/-- An element that is read back from its own text where no slash in its name cuts that text. -/
structure Element.Readable (e : Element) : Prop where
  name_ne_empty : e.name ≠ ""
  name_open : '[' ∉ e.name.toList
  groups : ∀ kv ∈ e.keys.entries, GroupReadable kv

theorem Element.Readable.name_ne_open {e : Element} (h : e.Readable) :
    ∀ c ∈ e.name.toList, decide (c ≠ '[') = true := by
  intro c hc
  exact decide_eq_true fun ho => h.name_open (ho ▸ hc)

theorem groups_cases (es : List (String × String)) :
    es = [] ∨ ∃ cs, es.flatMap Element.groupText = '[' :: cs := by
  cases es with
  | nil => exact .inl rfl
  | cons e es => exact .inr ⟨_, by rw [List.flatMap_cons, groupText_append, List.cons_append]⟩

theorem takeWhile_chars {e : Element} (h : e.Readable) :
    e.chars.takeWhile (· ≠ '[') = e.name.toList := by
  rw [Element.chars, List.takeWhile_append_of_pos h.name_ne_open]
  obtain he | ⟨cs, he⟩ := groups_cases e.keys.entries
  · simp [he]
  · simp [he]

theorem dropWhile_chars {e : Element} (h : e.Readable) :
    e.chars.dropWhile (· ≠ '[') = e.keys.entries.flatMap Element.groupText := by
  rw [Element.chars, List.dropWhile_append_of_pos h.name_ne_open]
  obtain he | ⟨cs, he⟩ := groups_cases e.keys.entries
  · simp [he]
  · simp [he]

theorem readElement_eq_ok_iff {segment : String} {e : Element} :
    readElement segment = .ok e ↔ segment.toList = e.chars ∧ e.Readable := by
  constructor
  · intro h
    have hcs := List.takeWhile_append_dropWhile (p := fun c => decide (c ≠ '['))
      (l := segment.toList)
    have hname : '[' ∉ segment.toList.takeWhile (· ≠ '[') := fun hm => by
      simpa using List.mem_takeWhile_imp hm
    simp only [readElement] at h
    split at h
    · next hg =>
      split at h
      · cases h
      · next hn =>
        cases h
        rw [List.isEmpty_iff.1 hg, List.append_nil] at hcs
        rw [hcs] at hn hname
        exact ⟨by simp [Element.chars, Table.empty], by simpa using hn, hname,
          by simp [Table.empty]⟩
    · next hg =>
      split at h
      · cases h
      · next hn =>
        obtain ⟨ks, hk, rfl⟩ := map_eq_ok h
        obtain ⟨es, hes, hgroups, hr⟩ := readKeys_eq_ok_iff.1 hk
        obtain rfl : ks.entries = es := by simpa [Table.empty] using hes
        refine ⟨?_, ?_, ?_, hr⟩
        · rw [Element.chars, String.toList_ofList, ← hgroups, hcs]
        · simpa using hn
        · simpa using hname
  · rintro ⟨hs, he⟩
    have hn : e.name.toList.isEmpty = false := by simpa using he.name_ne_empty
    simp only [readElement, hs, takeWhile_chars he, dropWhile_chars he, hn]
    by_cases hg : (e.keys.entries.flatMap Element.groupText).isEmpty
    · obtain hk | ⟨cs, hk⟩ := groups_cases e.keys.entries
      · have hseg : segment = e.name := by
          rw [← String.toList_inj, hs, Element.chars, hk]
          simp
        simp only [hg, if_true, Bool.false_eq_true, if_false, hseg]
        exact congrArg Except.ok (congrArg (Element.mk e.name) (Table.ext hk.symm))
      · simp [hk] at hg
    · have hk : readKeys segment .empty (e.keys.entries.flatMap Element.groupText) = .ok e.keys :=
        readKeys_eq_ok_iff.2 ⟨_, rfl, rfl, he.groups⟩
      simp only [hg, hk, Bool.false_eq_true, if_false]
      simp [Except.map]

end Path

end StateCheck
