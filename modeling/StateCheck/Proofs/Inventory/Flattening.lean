import Mathlib.Algebra.GroupWithZero.Nat
import Mathlib.Data.List.Chain
import Mathlib.Logic.Relation
import StateCheck.Inventory.Basic
import StateCheck.Proofs.Noted
import StateCheck.Proofs.Table

/-!
Groups that refer to groups: what is left of the references once the passes over the groups are
done.
-/

namespace StateCheck.Inventory

variable {groups now : Table (List String)} {name b m : String}
  {ms ms' members inner out : List String} {c d k : Nat}

/-! ### References -/

/-- A member of the group `a` refers to the group `b`. -/
def Refers (groups : Table (List String)) (a b : String) : Prop :=
  ∃ members, groups.get? a = some members ∧
    ∃ m ∈ members, reference? m = some b ∧ (groups.get? b).isSome = true

/-- No cycle of references can be reached from the group, and no chain of references that leads
away from it visits more groups than there are passes. -/
structure Shallow (groups : Table (List String)) (name : String) : Prop where
  acyclic : ∀ b, Relation.ReflTransGen (Refers groups) name b →
    ¬Relation.TransGen (Refers groups) b b
  short : ∀ chain, (name :: chain).IsChain (Refers groups) → (name :: chain).Nodup →
    chain.length ≤ passLimit

/-- Members with each reference to a group replaced by what the members of that group come to. -/
inductive Flattens (groups : Table (List String)) : List String → List String → Prop
  | nil : Flattens groups [] []
  | kept {m : String} {ms out : List String} (h : referred? groups m = none)
      (tail : Flattens groups ms out) : Flattens groups (m :: ms) (m :: out)
  | replaced {m : String} {ms inner first rest : List String}
      (h : referred? groups m = some inner) (head : Flattens groups inner first)
      (tail : Flattens groups ms rest) : Flattens groups (m :: ms) (first ++ rest)

theorem referred?_eq_some_iff : referred? groups m = some inner ↔
    ∃ b, reference? m = some b ∧ groups.get? b = some inner := Option.bind_eq_some_iff

/-- References lead from the member through at most so many groups. -/
def Within (groups : Table (List String)) : (depth : Nat) → String → Prop
  | 0, m => referred? groups m = none
  | depth + 1, m => ∀ inner, referred? groups m = some inner → ∀ x ∈ inner, Within groups depth x

instance decideWithin (groups : Table (List String)) : (k : Nat) → (m : String) →
    Decidable (Within groups k m)
  | 0, m => inferInstanceAs (Decidable (referred? groups m = none))
  | k + 1, m =>
    have := decideWithin groups k
    inferInstanceAs (Decidable (∀ inner ∈ referred? groups m, ∀ x ∈ inner, Within groups k x))

theorem within_of_none (h : referred? groups m = none) (k : Nat) : Within groups k m := by
  cases k with
  | zero => exact h
  | succ k =>
    intro inner hinner
    rw [h] at hinner
    cases hinner

theorem Within.succ (h : Within groups k m) : Within groups (k + 1) m := by
  induction k generalizing m with
  | zero => exact within_of_none h 1
  | succ k ih => exact fun inner hinner x hx => ih (h inner hinner x hx)

theorem Within.mono (h : Within groups k m) (hkd : k ≤ d) : Within groups d m := by
  induction hkd with
  | refl => exact h
  | step _ ih => exact ih.succ

/-! ### Chains -/

theorem within_of_chains
    (h : ∀ chain, (name :: chain).IsChain (Refers groups) → chain.length ≤ k)
    (hg : groups.get? name = some members) : ∀ m ∈ members, Within groups k m := by
  induction k generalizing name members with
  | zero =>
    intro m hm
    cases hr : referred? groups m with
    | none => exact hr
    | some inner =>
      obtain ⟨b, hb, hinner⟩ := referred?_eq_some_iff.1 hr
      have hlen := h [b] (List.isChain_cons_cons.2
        ⟨⟨members, hg, m, hm, hb, by simp [hinner]⟩, List.isChain_singleton b⟩)
      simp at hlen
  | succ k ih =>
    intro m hm inner hr
    obtain ⟨b, hb, hinner⟩ := referred?_eq_some_iff.1 hr
    refine ih (fun chain hchain => ?_) hinner
    have hlen := h (b :: chain) (List.isChain_cons_cons.2
      ⟨⟨members, hg, m, hm, hb, by simp [hinner]⟩, hchain⟩)
    simpa using hlen

theorem nodup_of_acyclic
    (hacyclic : ∀ b, Relation.ReflTransGen (Refers groups) name b →
      ¬Relation.TransGen (Refers groups) b b) {chain : List String}
    (hchain : (name :: chain).IsChain (Refers groups)) : (name :: chain).Nodup := by
  induction chain generalizing name with
  | nil => simp
  | cons b chain ih =>
    obtain ⟨hb, htail⟩ := List.isChain_cons_cons.1 hchain
    refine List.nodup_cons.2 ⟨fun hm => ?_, ih (fun x hx => hacyclic x (.head hb hx)) htail⟩
    have htrans : (name :: b :: chain).IsChain (Relation.TransGen (Refers groups)) :=
      hchain.imp fun _ _ => .single
    exact hacyclic name .refl (htrans.rel_cons hm)

/-- A group whose members all lead less deep than it does itself. -/
def GroupWithin (groups : Table (List String)) (k : Nat) (name : String) : Prop :=
  ∃ members, groups.get? name = some members ∧ ∀ m ∈ members, Within groups k m

theorem GroupWithin.refers (h : GroupWithin groups k name) (hr : Refers groups name b) :
    ∃ j, k = j + 1 ∧ GroupWithin groups j b := by
  obtain ⟨members, hg, hm⟩ := h
  obtain ⟨members', hg', m, hm', hb, hsome⟩ := hr
  obtain rfl : members = members' := Option.some.inj (hg.symm.trans hg')
  obtain ⟨inner, hinner⟩ := Option.isSome_iff_exists.1 hsome
  have hr : referred? groups m = some inner := referred?_eq_some_iff.2 ⟨b, hb, hinner⟩
  cases k with
  | zero =>
    have hnone : referred? groups m = none := hm m hm'
    rw [hr] at hnone
    cases hnone
  | succ k => exact ⟨k, rfl, inner, hinner, hm m hm' inner hr⟩

theorem GroupWithin.reaches (h : GroupWithin groups k name)
    (hr : Relation.TransGen (Refers groups) name b) : ∃ j < k, GroupWithin groups j b := by
  induction hr with
  | single hr =>
    obtain ⟨j, rfl, hj⟩ := h.refers hr
    exact ⟨j, by omega, hj⟩
  | tail _ hr ih =>
    obtain ⟨i, hi, hb⟩ := ih
    obtain ⟨j, rfl, hj⟩ := hb.refers hr
    exact ⟨j, by omega, hj⟩

theorem GroupWithin.not_cycle (h : GroupWithin groups k name) :
    ¬Relation.TransGen (Refers groups) name name := by
  induction k using Nat.strong_induction_on with
  | _ k ih =>
    intro hr
    obtain ⟨j, hj, hname⟩ := h.reaches hr
    exact ih j hj hname hr

theorem GroupWithin.length_le {chain : List String} (h : GroupWithin groups k name)
    (hchain : (name :: chain).IsChain (Refers groups)) : chain.length ≤ k := by
  induction chain generalizing name k with
  | nil => simp
  | cons b chain ih =>
    obtain ⟨hb, htail⟩ := List.isChain_cons_cons.1 hchain
    obtain ⟨j, rfl, hj⟩ := h.refers hb
    simpa using ih hj htail

/-- References lead at most so deep from a group exactly if it is shallow. -/
theorem shallow_iff (hg : groups.get? name = some members) :
    Shallow groups name ↔ ∀ m ∈ members, Within groups passLimit m := by
  constructor
  · intro h
    exact within_of_chains (fun chain hchain =>
      h.short chain hchain (nodup_of_acyclic h.acyclic hchain)) hg
  · intro h
    have hwithin : GroupWithin groups passLimit name := ⟨members, hg, h⟩
    refine ⟨fun b hb => ?_, fun chain hchain _ => hwithin.length_le hchain⟩
    rcases Relation.reflTransGen_iff_eq_or_transGen.1 hb with rfl | hb
    · exact hwithin.not_cycle
    · obtain ⟨j, -, hj⟩ := hwithin.reaches hb
      exact hj.not_cycle

/-! ### Flattening -/

theorem Flattens.append {ms₁ ms₂ out₁ out₂ : List String} (h₁ : Flattens groups ms₁ out₁)
    (h₂ : Flattens groups ms₂ out₂) : Flattens groups (ms₁ ++ ms₂) (out₁ ++ out₂) := by
  induction h₁ with
  | nil => exact h₂
  | kept h _ ih => exact .kept h ih
  | replaced h head _ _ ih =>
    rw [List.append_assoc]
    exact .replaced h head ih

theorem Flattens.unique {out' : List String} (h : Flattens groups ms out)
    (h' : Flattens groups ms out') : out = out' := by
  induction h generalizing out' with
  | nil =>
    cases h'
    rfl
  | kept h _ ih =>
    cases h' with
    | kept _ tail => rw [ih tail]
    | replaced hr => simp [h] at hr
  | replaced h _ _ ihead itail =>
    cases h' with
    | kept hr => simp [h] at hr
    | replaced hr head tail =>
      obtain rfl := Option.some.inj (h.symm.trans hr)
      rw [ihead head, itail tail]

theorem exists_flattens_of_referred
    (h : ∀ m ∈ ms, ∀ inner, referred? groups m = some inner → ∃ out, Flattens groups inner out) :
    ∃ out, Flattens groups ms out := by
  induction ms with
  | nil => exact ⟨[], .nil⟩
  | cons m ms ih =>
    obtain ⟨hm, hms⟩ := List.forall_mem_cons.1 h
    obtain ⟨rest, hrest⟩ := ih hms
    cases hr : referred? groups m with
    | none => exact ⟨m :: rest, .kept hr hrest⟩
    | some inner =>
      obtain ⟨first, hfirst⟩ := hm inner hr
      exact ⟨first ++ rest, .replaced hr hfirst hrest⟩

theorem exists_flattens (h : ∀ m ∈ ms, Within groups k m) : ∃ out, Flattens groups ms out := by
  induction k generalizing ms with
  | zero =>
    refine exists_flattens_of_referred fun m hm inner hr => ?_
    have hnone : referred? groups m = none := h m hm
    rw [hr] at hnone
    cases hnone
  | succ k ih => exact exists_flattens_of_referred fun m hm inner hr => ih (h m hm inner hr)

theorem Flattens.eq_of_none (h : Flattens groups ms out)
    (hnone : ∀ m ∈ ms, referred? groups m = none) : out = ms := by
  induction h with
  | nil => rfl
  | kept _ _ ih => rw [ih fun m hm => hnone m (List.mem_cons_of_mem _ hm)]
  | replaced h =>
    have hm := hnone _ List.mem_cons_self
    rw [h] at hm
    cases hm

theorem Flattens.congr {groups' : Table (List String)}
    (hg : ∀ b, groups.get? b = groups'.get? b) (h : Flattens groups ms out) :
    Flattens groups' ms out := by
  have hr : ∀ m, referred? groups' m = referred? groups m := fun m => by
    simp only [referred?, funext hg]
  induction h with
  | nil => exact .nil
  | kept h _ ih => exact .kept (by rw [hr, h]) ih
  | replaced h _ _ ihead itail => exact .replaced (by rw [hr, h]) ihead itail

/-! ### Passes -/

/-- The members that take the place of members in a pass. -/
def expandMembers (now : Table (List String)) (ms : List String) : List String :=
  ms.flatMap fun m => (referred? now m).getD [m]

theorem get?_expandGroup (hn : now.get? name = some ms) (b : String) :
    (expandGroup now name).get? b =
      if name = b then some (expandMembers now ms) else now.get? b := by
  simp only [expandGroup, hn, Option.getD_some, Table.get?_put, expandMembers]

/-- The group has become members that come to the same, and from which references lead through `c`
groups less. -/
def Staged (groups now : Table (List String)) (c : Nat) (name : String) : Prop :=
  ∀ ms ms', groups.get? name = some ms → now.get? name = some ms' →
    (∀ out, Flattens groups ms out → Flattens groups ms' out) ∧
    ∀ k, (∀ m ∈ ms, Within groups (k + c) m) → ∀ m ∈ ms', Within groups k m

/-- What passes have made of the groups. -/
structure Expands (groups now : Table (List String)) (c : Nat) : Prop where
  defined : ∀ b, (now.get? b).isSome = (groups.get? b).isSome
  staged : ∀ b, Staged groups now c b

theorem expands_refl (groups : Table (List String)) : Expands groups groups 0 where
  defined _ := rfl
  staged b ms ms' hms hms' := by
    obtain rfl := Option.some.inj (hms.symm.trans hms')
    exact ⟨fun _ h => h, fun _ h => h⟩

theorem Expands.exists_after (h : Expands groups now c) (hb : groups.get? b = some ms) :
    ∃ ms', now.get? b = some ms' :=
  Option.isSome_iff_exists.1 (by rw [h.defined, hb]; rfl)

theorem Expands.exists_before (h : Expands groups now c) (hb : now.get? b = some ms') :
    ∃ ms, groups.get? b = some ms :=
  Option.isSome_iff_exists.1 (by rw [← h.defined, hb]; rfl)

theorem Expands.referred? (h : Expands groups now c) (hr : referred? groups m = some inner) :
    ∃ b inner', groups.get? b = some inner ∧ now.get? b = some inner' ∧
      referred? now m = some inner' := by
  obtain ⟨b, hb, hinner⟩ := referred?_eq_some_iff.1 hr
  obtain ⟨inner', hinner'⟩ := h.exists_after hinner
  exact ⟨b, inner', hinner, hinner', referred?_eq_some_iff.2 ⟨b, hb, hinner'⟩⟩

theorem Expands.referred?_none (h : Expands groups now c)
    (hr : Inventory.referred? groups m = none) : Inventory.referred? now m = none := by
  cases hn : Inventory.referred? now m with
  | none => rfl
  | some inner =>
    obtain ⟨b, hb, hinner⟩ := referred?_eq_some_iff.1 hn
    obtain ⟨inner', hinner'⟩ := h.exists_before hinner
    rw [referred?_eq_some_iff.2 ⟨b, hb, hinner'⟩] at hr
    cases hr

theorem Expands.flattens (h : Expands groups now c) (hf : Flattens groups ms out) :
    Flattens groups (expandMembers now ms) out := by
  induction hf with
  | nil => exact .nil
  | kept hr _ ih =>
    rw [expandMembers, List.flatMap_cons, h.referred?_none hr]
    exact .kept hr ih
  | replaced hr head _ _ ih =>
    obtain ⟨b, inner', hb, hb', hr'⟩ := h.referred? hr
    rw [expandMembers, List.flatMap_cons, hr']
    exact ((h.staged b _ _ hb hb').1 _ head).append ih

/-- A pass takes a group along the references that the groups referred to have left. -/
theorem Expands.within (h : Expands groups now c) (hm : ∀ m ∈ ms, Within groups (k + c + 1) m) :
    ∀ x ∈ expandMembers now ms, Within groups k x := by
  intro x hx
  obtain ⟨m, hmem, hx⟩ := List.mem_flatMap.1 hx
  cases hr : Inventory.referred? groups m with
  | none =>
    rw [h.referred?_none hr] at hx
    obtain rfl : x = m := by simpa using hx
    exact within_of_none hr k
  | some inner =>
    obtain ⟨b, inner', hb, hb', hr'⟩ := h.referred? hr
    rw [hr'] at hx
    exact (h.staged b _ _ hb hb').2 k (hm m hmem inner hr) x hx

theorem Expands.weaken (h : Expands groups now c) : Expands groups now 0 where
  defined := h.defined
  staged b ms ms' hms hms' := by
    obtain ⟨hf, hw⟩ := h.staged b ms ms' hms hms'
    exact ⟨hf, fun k hk => hw k fun m hm => (hk m hm).mono (by omega)⟩

theorem Expands.keeps (h : Expands groups now c) (hm : ∀ m ∈ ms, Within groups k m) :
    ∀ x ∈ expandMembers now ms, Within groups k x := by
  cases k with
  | zero =>
    intro x hx
    obtain ⟨m, hmem, hx⟩ := List.mem_flatMap.1 hx
    rw [h.referred?_none (hm m hmem)] at hx
    obtain rfl : x = m := by simpa using hx
    exact hm x hmem
  | succ k => exact fun x hx => (h.weaken.within hm x hx).succ

theorem Staged.expandGroup {a : String} (h : Staged groups now d name) (he : Expands groups now c)
    (ha : now.get? a = some members) : Staged groups (expandGroup now a) d name := by
  intro ms ms' hms hms'
  rw [get?_expandGroup ha] at hms'
  split at hms'
  · next heq =>
    subst heq
    cases hms'
    obtain ⟨hf, hw⟩ := h ms members hms ha
    exact ⟨fun out hout => he.flattens (hf out hout), fun k hk => he.keeps (hw k hk)⟩
  · exact h ms ms' hms hms'

/-- The group whose turn it is in a pass. -/
theorem Expands.turn (h : Expands groups now c) (hn : now.get? name = some members) :
    Staged groups (expandGroup now name) (2 * c + 1) name := by
  intro ms ms' hms hms'
  rw [get?_expandGroup hn, if_pos rfl] at hms'
  cases hms'
  obtain ⟨hf, hw⟩ := h.staged name ms members hms hn
  refine ⟨fun out hout => h.flattens (hf out hout), fun k hk => h.within (hw (k + c + 1) ?_)⟩
  intro m hm
  exact (hk m hm).mono (by omega)

theorem Expands.expandGroup (h : Expands groups now c) (hn : now.get? name = some members) :
    Expands groups (expandGroup now name) c where
  defined b := by
    rw [get?_expandGroup hn]
    split
    · next heq => rw [← h.defined, ← heq, hn]; rfl
    · exact h.defined b
  staged b := (h.staged b).expandGroup h hn

theorem Expands.foldl {names : List String} (h : Expands groups now c)
    (hn : ∀ a ∈ names, (now.get? a).isSome = true) :
    Expands groups (names.foldl Inventory.expandGroup now) c ∧
      ∀ b, b ∈ names ∨ Staged groups now (2 * c + 1) b →
        Staged groups (names.foldl Inventory.expandGroup now) (2 * c + 1) b := by
  induction names generalizing now with
  | nil => exact ⟨h, fun b hb => by simpa using hb⟩
  | cons a names ih =>
    obtain ⟨ha, hns⟩ := List.forall_mem_cons.1 hn
    obtain ⟨members, ha⟩ := Option.isSome_iff_exists.1 ha
    have hnext := h.expandGroup ha
    obtain ⟨he, hs⟩ := ih hnext fun x hx => by rw [hnext.defined, ← h.defined, hns x hx]
    refine ⟨he, fun b hb => hs b ?_⟩
    -- The last turn of a group counts; until then it may be turned with others.
    by_cases hba : b = a
    · subst hba
      exact .inr (h.turn ha)
    · rcases hb with hb | hb
      · exact .inl ((List.mem_cons.1 hb).resolve_left hba)
      · exact .inr (hb.expandGroup h ha)

theorem Expands.pass (h : Expands groups now c) : Expands groups (expandPass now) (2 * c + 1) := by
  have hdefined : ∀ a ∈ now.names, (now.get? a).isSome = true := fun _ ha => Table.isSome_get?.2 ha
  obtain ⟨he, hs⟩ := h.foldl hdefined
  refine ⟨he.defined, fun b ms ms' hms hms' => ?_⟩
  have hb : b ∈ now.names := Table.isSome_get?.1 (by rw [h.defined, hms]; rfl)
  exact hs b (.inl hb) ms ms' hms hms'

/-! ### All passes -/

theorem hasReferences_eq_false_iff : hasReferences now = false ↔
    ∀ b ms, now.get? b = some ms → ∀ m ∈ ms, referred? now m = none := by
  simp only [hasReferences, List.any_eq_false, Table.get?_eq_some_iff]
  constructor
  · intro h b ms hb m hm
    have hany := h (b, ms) hb
    simp only [List.any_eq_true, not_exists, not_and] at hany
    simpa using hany m hm
  · intro h g hg
    simpa using fun m hm => h g.1 g.2 hg m hm

theorem Expands.referred?_of_none (h : Expands groups now c)
    (hr : Inventory.referred? now m = none) : Inventory.referred? groups m = none := by
  cases hg : Inventory.referred? groups m with
  | none => rfl
  | some inner =>
    obtain ⟨b, inner', -, -, hr'⟩ := h.referred? hg
    rw [hr] at hr'
    cases hr'

theorem doubled (c limit : Nat) : (2 * c + 1 + 1) * 2 ^ limit = (c + 1) * 2 ^ (limit + 1) := by
  have hc : 2 * c + 1 + 1 = (c + 1) * 2 := by omega
  rw [hc, Nat.mul_assoc, ← Nat.pow_succ']

/-- Each pass halves what is left of the way along the references. -/
theorem Expands.expandWithin (h : Expands groups now c) (limit : Nat) :
    ∃ c', Expands groups (expandWithin limit now).1 c' ∧
      ∀ name ms ms', groups.get? name = some ms → (∀ m ∈ ms, Within groups d m) →
        d < (c + 1) * 2 ^ limit → (Inventory.expandWithin limit now).1.get? name = some ms' →
        ∀ m ∈ ms', Inventory.referred? groups m = none := by
  induction limit generalizing now c with
  | zero =>
    refine ⟨c, h, fun name ms ms' hms hd hlt hms' m hm => ?_⟩
    have hdc : d ≤ 0 + c := by simpa [Nat.lt_succ_iff] using hlt
    exact (h.staged name ms ms' hms hms').2 0 (fun x hx => (hd x hx).mono hdc) m hm
  | succ limit ih =>
    rw [Inventory.expandWithin]
    cases hr : hasReferences now with
    | false =>
      refine ⟨c, h, fun name ms ms' _ _ _ hms' m hm => ?_⟩
      exact h.referred?_of_none (hasReferences_eq_false_iff.1 hr name ms' hms' m hm)
    | true =>
      obtain ⟨c', he, hs⟩ := ih h.pass
      -- `(c + 1) * 2 ^ limit` is the same before and after a pass.
      rw [doubled] at hs
      exact ⟨c', he, hs⟩

theorem Expands.settled (h : Expands groups now c)
    (hd : ∀ name ms, groups.get? name = some ms → ∀ m ∈ ms, Within groups d m) {limit : Nat}
    (hlt : d < (c + 1) * 2 ^ limit) : (Inventory.expandWithin (limit + 1) now).2 = true := by
  induction limit generalizing now c with
  | zero =>
    have hnone : hasReferences now = false := by
      refine hasReferences_eq_false_iff.2 fun b ms' hb m hm => ?_
      obtain ⟨ms, hms⟩ := h.exists_before hb
      have hdc : d ≤ 0 + c := by simpa [Nat.lt_succ_iff] using hlt
      exact h.referred?_none
        ((h.staged b ms ms' hms hb).2 0 (fun x hx => (hd b ms hms x hx).mono hdc) m hm)
    simp [Inventory.expandWithin, hnone]
  | succ limit ih =>
    rw [Inventory.expandWithin]
    split
    · exact ih h.pass (by rwa [doubled])
    · rfl

theorem flatGroups_eq (groups : Table (List String)) :
    (flatGroups groups).outcome = .ok (expandWithin passLimit groups).1 ∧
      ((expandWithin passLimit groups).2 = true → (flatGroups groups).notices = []) := by
  unfold flatGroups
  cases h : (expandWithin passLimit groups).2 with
  | false =>
    simp only [h]
    exact ⟨rfl, nofun⟩
  | true =>
    simp only [h]
    exact ⟨rfl, fun _ => rfl⟩

theorem exists_flat (hg : groups.get? name = some members) (hs : Shallow groups name) :
    ∃ out, (expandWithin passLimit groups).1.get? name = some out ∧
      Flattens groups members out := by
  obtain ⟨c, he, hnone⟩ := (expands_refl groups).expandWithin passLimit (d := passLimit)
  have hwithin := (shallow_iff hg).1 hs
  obtain ⟨ms', hms'⟩ := he.exists_after hg
  obtain ⟨out, hout⟩ := exists_flattens hwithin
  have hout' := (he.staged name members ms' hg hms').1 out hout
  rw [hout'.eq_of_none (hnone name members ms' hg hwithin (by decide) hms')] at hout
  exact ⟨ms', hms', hout⟩

theorem Shallow.congr {groups' : Table (List String)} (hg : ∀ b, groups'.get? b = groups.get? b)
    (h : Shallow groups name) : Shallow groups' name := by
  have hr : Refers groups' = Refers groups := by
    funext a b
    simp only [Refers, hg]
  exact ⟨hr ▸ h.acyclic, hr ▸ h.short⟩

theorem expandReferences_outcome (i : Inventory) : i.expandReferences.outcome =
    .ok { i with groups := (expandWithin passLimit i.groups).1 } := by
  rw [expandReferences, Noted.outcome_bind, (flatGroups_eq i.groups).1]
  rfl

theorem expandReferences_notices (i : Inventory) :
    i.expandReferences.notices = (flatGroups i.groups).notices := by
  change (Noted.bind _ _).notices = _
  rw [Noted.bind, (flatGroups_eq i.groups).1]
  exact List.append_nil _

/-- Whatever the order of the groups and whatever cycles there are among others: a shallow group
ends up with the one flattening of its members. If all groups are shallow, nothing is noted. -/
theorem members_of_shallow (i : Inventory) : ∃ j, i.expandReferences.outcome = .ok j ∧
    (∀ name members, i.groups.get? name = some members → Shallow i.groups name →
      ∃ out, j.groups.get? name = some out ∧ ∀ out', Flattens i.groups members out' ↔ out' = out) ∧
    (∀ i' j' : Inventory, i'.groups.entries.Perm i.groups.entries →
      i'.expandReferences.outcome = .ok j' →
      ∀ name ∈ i.groups.names, Shallow i.groups name →
        j'.groups.get? name = j.groups.get? name) ∧
    ((∀ name ∈ i.groups.names, Shallow i.groups name) → i.expandReferences.notices = []) := by
  refine ⟨_, expandReferences_outcome i, fun name members hg hs => ?_, ?_, fun hs => ?_⟩
  · obtain ⟨out, hout, hflat⟩ := exists_flat hg hs
    exact ⟨out, hout, fun out' => ⟨fun h => h.unique hflat, fun h => h ▸ hflat⟩⟩
  · intro i' j' hperm hj' name hname hs
    have hget := Table.get?_of_perm hperm
    obtain ⟨members, hg⟩ := Option.isSome_iff_exists.1 (Table.isSome_get?.2 hname)
    obtain ⟨out, hout, hflat⟩ := exists_flat hg hs
    obtain ⟨out', hout', hflat'⟩ := exists_flat ((hget name).trans hg) (hs.congr hget)
    rw [expandReferences_outcome] at hj'
    cases hj'
    rw [hout, hout', hflat.unique (hflat'.congr hget)]
  · rw [expandReferences_notices]
    refine (flatGroups_eq i.groups).2 ((expands_refl i.groups).settled ?_ (d := passLimit) ?_)
    · intro name ms hms
      exact (shallow_iff hms).1 (hs name (Table.isSome_get?.1 (by rw [hms]; rfl)))
    · decide

def tangled : Inventory where
  groups := ⟨[("a", ["@b", "h0", "@b"]), ("loop", ["@loop", "@a"]), ("b", ["@c", "@nowhere"]),
    ("c", ["h1"])], by decide⟩
  defaults := ⟨⟨"", "", false⟩, 0⟩
  source := none

def untangled : Inventory where
  groups := ⟨[("c", ["h1"]), ("b", ["@c", "@nowhere"]), ("a", ["@b", "h0", "@b"])], by decide⟩
  defaults := ⟨⟨"", "", false⟩, 0⟩
  source := none

theorem shallow_tangled : Shallow tangled.groups "a" :=
  (shallow_iff rfl).2 (by decide +kernel)

theorem shallow_untangled : ∀ name ∈ untangled.groups.names, Shallow untangled.groups name := by
  have hnames : untangled.groups.names = ["c", "b", "a"] := rfl
  rw [hnames]
  simp only [List.forall_mem_cons]
  refine ⟨?_, ?_, ?_, by simp⟩
  · exact (shallow_iff rfl).2 (by decide +kernel)
  · exact (shallow_iff rfl).2 (by decide +kernel)
  · exact (shallow_iff rfl).2 (by decide +kernel)

theorem flattens_tangled : Flattens tangled.groups ["@b", "h0", "@b"]
    ["h1", "@nowhere", "h0", "h1", "@nowhere"] := by
  have hc : Flattens tangled.groups ["h1"] ["h1"] := .kept rfl .nil
  have hb : Flattens tangled.groups ["@c", "@nowhere"] ["h1", "@nowhere"] :=
    .replaced rfl hc (.kept rfl .nil)
  exact .replaced rfl hb (.kept rfl (.replaced rfl hb .nil))

/-- A group with a repeated reference, beside one that refers to itself; and the groups without
that one, in another order. -/
theorem members_of_tangled :
    (∃ j, tangled.expandReferences.outcome = .ok j ∧
      j.groups.get? "a" = some ["h1", "@nowhere", "h0", "h1", "@nowhere"] ∧
      ∀ (turned : Inventory) (j' : Inventory),
        turned.groups.entries = tangled.groups.entries.reverse →
        turned.expandReferences.outcome = .ok j' → j'.groups.get? "a" = j.groups.get? "a") ∧
    untangled.expandReferences.notices = [] := by
  obtain ⟨j, hj, hflat, hsame, -⟩ := members_of_shallow tangled
  obtain ⟨-, -, -, -, hnotices⟩ := members_of_shallow untangled
  refine ⟨⟨j, hj, ?_, fun turned j' hturned hj' => ?_⟩, hnotices shallow_untangled⟩
  · obtain ⟨out, hout, hiff⟩ := hflat "a" _ rfl shallow_tangled
    rw [hout, (hiff _).1 flattens_tangled]
  · refine hsame turned j' ?_ hj' "a" (by decide) shallow_tangled
    rw [hturned]
    exact List.reverse_perm _

end StateCheck.Inventory
