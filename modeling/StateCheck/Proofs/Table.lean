import Mathlib.Data.List.Nodup
import StateCheck.Table

/-!
Look-ups in tables.
-/

namespace StateCheck.Table

variable {α : Type} {s t : Table α} {k n : String} {v : α}

theorem ext (h : s.entries = t.entries) : s = t := by
  cases s
  cases t
  cases h
  rfl

theorem get?_eq_some_iff : t.get? k = some v ↔ (k, v) ∈ t.entries := by
  rw [get?, List.lookup_eq_some_iff]
  constructor
  · rintro ⟨before, after, hsplit, -⟩
    simp [hsplit]
  · intro hm
    obtain ⟨before, after, hsplit⟩ := List.append_of_mem hm
    refine ⟨before, after, hsplit, ?_⟩
    intro e he
    have hd := t.distinct
    rw [hsplit, List.map_append, List.nodup_append] at hd
    have hne : e.1 ≠ k := hd.2.2 e.1 (List.mem_map_of_mem he) k (by simp)
    simpa using hne.symm

theorem isSome_get? : (t.get? k).isSome = true ↔ k ∈ t.names := by
  rw [Option.isSome_iff_exists, names, List.mem_map]
  constructor
  · rintro ⟨v, hv⟩
    exact ⟨(k, v), get?_eq_some_iff.1 hv, rfl⟩
  · rintro ⟨⟨k, v⟩, hm, rfl⟩
    exact ⟨v, get?_eq_some_iff.2 hm⟩

/-- The order of the entries does not matter to look-ups. -/
theorem get?_of_perm (h : s.entries.Perm t.entries) (k : String) : s.get? k = t.get? k := by
  ext v
  rw [get?_eq_some_iff, get?_eq_some_iff]
  exact h.mem_iff

theorem lookup_cons_if (k k' : String) (v : α) (es : List (String × α)) :
    ((k, v) :: es).lookup k' = if k = k' then some v else es.lookup k' := by
  by_cases h : k = k'
  · simp [h]
  · have h' : (k' == k) = false := by simpa using Ne.symm h
    rw [List.lookup_cons, h', if_neg h]

theorem lookup_putEntry (k k' : String) (v : α) (es : List (String × α)) :
    (putEntry k v es).lookup k' = if k = k' then some v else es.lookup k' := by
  induction es with
  | nil => rw [putEntry, lookup_cons_if]
  | cons e es ih =>
    obtain ⟨k₁, v₁⟩ := e
    rw [putEntry]
    by_cases h : k₁ = k
    · subst h
      rw [if_pos rfl, lookup_cons_if, lookup_cons_if]
      split <;> rfl
    · rw [if_neg h, lookup_cons_if, lookup_cons_if, ih]
      by_cases h₁ : k₁ = k' <;> by_cases hk : k = k' <;> simp_all

theorem get?_put (t : Table α) (k k' : String) (v : α) :
    (t.put k v).get? k' = if k = k' then some v else t.get? k' := lookup_putEntry k k' v t.entries

theorem get?_foldl_put {es : List (String × α)}
    (h : (es.foldl (fun t e => t.put e.1 e.2) t).get? k = some v) :
    (k, v) ∈ es ∨ t.get? k = some v := by
  induction es generalizing t with
  | nil => exact .inr h
  | cons e es ih =>
    rcases ih h with hm | ht
    · exact .inl (List.mem_cons_of_mem _ hm)
    · rw [get?_put] at ht
      split at ht
      · next heq =>
        subst heq
        cases ht
        exact .inl List.mem_cons_self
      · exact .inr ht

theorem mem_of_get?_ofList {es : List (String × α)} (h : (ofList es).get? k = some v) :
    (k, v) ∈ es := (get?_foldl_put h).resolve_right nofun

theorem add?_eq_some_iff :
    s.add? k v = some t ↔ t.entries = s.entries ++ [(k, v)] := by
  constructor
  · intro h
    unfold add? at h
    split at h
    · cases h
    · cases h; rfl
  · intro h
    have hk : k ∉ s.entries.map Prod.fst := by
      have hd := t.distinct
      rw [h, List.map_append, List.nodup_append] at hd
      exact fun hm => hd.2.2 k hm k (by simp) rfl
    rw [add?, dif_neg hk]
    exact congrArg some (ext h.symm)

theorem names_add?_getD : ((t.add? k v).getD t).names =
    if k ∈ t.names then t.names else t.names ++ [k] := by
  unfold add? names
  split
  · rfl
  · exact List.map_append

theorem get?_add?_getD : ((t.add? k v).getD t).get? n =
    if k = n then some ((t.get? k).getD v) else t.get? n := by
  unfold add?
  split
  · next h =>
    obtain ⟨w, hw⟩ := Option.isSome_iff_exists.1 (isSome_get?.2 h)
    rw [Option.getD_none]
    split
    · next heq => rw [← heq, hw, Option.getD_some]
    · rfl
  · next h =>
    have hnone : t.get? k = none := by simpa using isSome_get?.not.2 h
    rw [Option.getD_some, get?, List.lookup_append, lookup_cons_if]
    split
    · next heq =>
      rw [← heq, ← get?, hnone]
      rfl
    · exact Option.or_none

/-- Tables with the same names in the same order and the same values are the same. -/
theorem ext_get? (hnames : s.names = t.names) (hget : ∀ k, s.get? k = t.get? k) :
    s = t := by
  have hlength : s.entries.length = t.entries.length := by
    simpa [names] using congrArg List.length hnames
  refine ext (List.ext_getElem hlength fun i hs ht => ?_)
  have hkey : (s.entries.map Prod.fst)[i]? = (t.entries.map Prod.fst)[i]? :=
    congrArg (fun ks : List String => ks[i]?) hnames
  have hmem : s.entries[i] ∈ t.entries :=
    get?_eq_some_iff.1 ((hget _).symm.trans (get?_eq_some_iff.2 (List.getElem_mem hs)))
  refine List.inj_on_of_nodup_map t.distinct hmem (List.getElem_mem ht) ?_
  simpa [hs, ht] using hkey

theorem isEmpty_iff : t.isEmpty = true ↔ t.names = [] := by
  rw [isEmpty, List.isEmpty_iff, names, List.map_eq_nil_iff]

end StateCheck.Table
