import StateCheck.Proofs.Inventory.Flattening

/-!
What can be reached from groups: the passes over groups that refer to each other, in cycles or not,
take nothing of it away and add nothing to it.
-/

namespace StateCheck.Inventory

variable {groups now next : Table (List String)} {a b m name x : String}
  {ms members inner : List String}

/-- The host, or the reference to a group that does not exist, is a member of the group or of one
to which references lead from it. -/
inductive Reaches (groups : Table (List String)) (m : String) : String → Prop
  | member {name : String} {members : List String} (hg : groups.get? name = some members)
      (hm : m ∈ members) (hr : referred? groups m = none) : Reaches groups m name
  | through {name b : String} (hr : Refers groups name b) (h : Reaches groups m b) :
      Reaches groups m name

/-! ### One group -/

theorem mem_expandMembers : x ∈ expandMembers now ms ↔
    (x ∈ ms ∧ referred? now x = none) ∨
      ∃ y ∈ ms, ∃ b inner, reference? y = some b ∧ now.get? b = some inner ∧ x ∈ inner := by
  rw [expandMembers, List.mem_flatMap]
  constructor
  · rintro ⟨y, hy, hx⟩
    cases hr : referred? now y with
    | none =>
      rw [hr] at hx
      obtain rfl : x = y := by simpa using hx
      exact .inl ⟨hy, hr⟩
    | some inner =>
      obtain ⟨b, hb, hinner⟩ := referred?_eq_some_iff.1 hr
      rw [hr] at hx
      exact .inr ⟨y, hy, b, inner, hb, hinner, hx⟩
  · rintro (⟨hx, hr⟩ | ⟨y, hy, b, inner, hb, hinner, hx⟩)
    · exact ⟨x, hx, by simp [hr]⟩
    · exact ⟨y, hy, by simpa [referred?_eq_some_iff.2 ⟨b, hb, hinner⟩] using hx⟩

theorem isSome_expandGroup (ha : now.get? a = some members) (b : String) :
    ((expandGroup now a).get? b).isSome = (now.get? b).isSome := by
  rw [get?_expandGroup ha]
  split
  · next heq => rw [← heq, ha]; rfl
  · rfl

theorem referred?_eq_none_iff : referred? groups m = none ↔
    ∀ b, reference? m = some b → (groups.get? b).isSome = false := by
  simp [referred?, Option.bind_eq_none_iff]

theorem referred?_expandGroup (ha : now.get? a = some members) :
    referred? (expandGroup now a) m = none ↔ referred? now m = none := by
  simp only [referred?_eq_none_iff, isSome_expandGroup ha]

theorem get?_expandGroup_ne (ha : now.get? a = some members) (hb : b ≠ a) :
    (expandGroup now a).get? b = now.get? b := by
  rw [get?_expandGroup ha, if_neg (Ne.symm hb)]

theorem get?_expandGroup_self (ha : now.get? a = some members) :
    (expandGroup now a).get? a = some (expandMembers now members) := by
  rw [get?_expandGroup ha, if_pos rfl]

theorem refers_expandGroup (ha : now.get? a = some members) :
    Refers (expandGroup now a) name b ↔ ∃ ms, (expandGroup now a).get? name = some ms ∧
      ∃ m ∈ ms, reference? m = some b ∧ (now.get? b).isSome = true := by
  simp only [Refers, isSome_expandGroup ha]

/-- A group that takes the place of a reference to it brings nothing new. -/
theorem reaches_of_expandGroup (ha : now.get? a = some members)
    (h : Reaches (expandGroup now a) m name) : Reaches now m name := by
  induction h with
  | @member name ms hg hm hr =>
    have hnone := (referred?_expandGroup ha).1 hr
    by_cases hname : name = a
    · subst hname
      rw [get?_expandGroup_self ha] at hg
      cases hg
      obtain ⟨hm, -⟩ | ⟨y, hy, b, inner, hb, hinner, hm⟩ := mem_expandMembers.1 hm
      · exact .member ha hm hnone
      · exact .through ⟨members, ha, y, hy, hb, by simp [hinner]⟩ (.member hinner hm hnone)
    · rw [get?_expandGroup_ne ha hname] at hg
      exact .member hg hm hnone
  | @through name b hr _ ih =>
    obtain ⟨ms, hg, x, hx, hb, hsome⟩ := (refers_expandGroup ha).1 hr
    by_cases hname : name = a
    · subst hname
      rw [get?_expandGroup_self ha] at hg
      cases hg
      obtain ⟨hx, -⟩ | ⟨y, hy, c, inner, hc, hinner, hx⟩ := mem_expandMembers.1 hx
      · exact .through ⟨members, ha, x, hx, hb, hsome⟩ ih
      · exact .through ⟨members, ha, y, hy, hc, by simp [hinner]⟩
          (.through ⟨inner, hinner, x, hx, hb, hsome⟩ ih)
    · rw [get?_expandGroup_ne ha hname] at hg
      exact .through ⟨ms, hg, x, hx, hb, hsome⟩ ih

/-- What the group led to by way of another one it has taken over from it. -/
theorem Reaches.of_other (ha : now.get? a = some members) (hr : Refers now a b) (hb : b ≠ a)
    (h : Reaches (Inventory.expandGroup now a) m b) :
    Reaches (Inventory.expandGroup now a) m a := by
  obtain ⟨members', ha', y, hy, hyb, -⟩ := hr
  cases ha.symm.trans ha'
  have htaken {inner : List String} (hinner : now.get? b = some inner) :
      inner ⊆ expandMembers now members := fun x hx =>
    mem_expandMembers.2 (.inr ⟨y, hy, b, inner, hyb, hinner, hx⟩)
  cases h with
  | member hg hm hnone =>
    rw [get?_expandGroup_ne ha hb] at hg
    exact .member (get?_expandGroup_self ha) (htaken hg hm) hnone
  | through hr h =>
    obtain ⟨inner, hg, x, hx, hc, hsome⟩ := (refers_expandGroup ha).1 hr
    rw [get?_expandGroup_ne ha hb] at hg
    exact .through ((refers_expandGroup ha).2
      ⟨_, get?_expandGroup_self ha, x, htaken hg hx, hc, hsome⟩) h

theorem Reaches.expandGroup (ha : now.get? a = some members) (h : Reaches now m name) :
    Reaches (expandGroup now a) m name := by
  induction h with
  | @member name ms hg hm hr =>
    have hnone := (referred?_expandGroup ha).2 hr
    by_cases hname : name = a
    · subst hname
      cases ha.symm.trans hg
      exact .member (get?_expandGroup_self ha) (mem_expandMembers.2 (.inl ⟨hm, hr⟩)) hnone
    · exact .member (by rw [get?_expandGroup_ne ha hname, hg]) hm hnone
  | @through name b hr _ ih =>
    by_cases hname : name = a
    · subst hname
      -- A group that refers to itself reaches no more by that.
      by_cases hb : b = name
      · exact hb ▸ ih
      · exact ih.of_other ha hr hb
    · obtain ⟨ms, hg, x, hx, hb, hsome⟩ := hr
      refine .through ((refers_expandGroup ha).2 ⟨ms, ?_, x, hx, hb, hsome⟩) ih
      rw [get?_expandGroup_ne ha hname, hg]

/-! ### All groups -/

/-- The groups have the same names in the same order, and the same can be reached from each. -/
structure Preserves (groups now : Table (List String)) : Prop where
  names : now.names = groups.names
  reaches : ∀ m name, Reaches now m name ↔ Reaches groups m name

theorem preserves_refl (groups : Table (List String)) : Preserves groups groups :=
  ⟨rfl, fun _ _ => Iff.rfl⟩

theorem Preserves.trans (h : Preserves groups now) (h' : Preserves now next) :
    Preserves groups next :=
  ⟨h'.names.trans h.names, fun m name => (h'.reaches m name).trans (h.reaches m name)⟩

theorem preserves_expandGroup (ha : a ∈ now.names) : Preserves now (expandGroup now a) := by
  obtain ⟨members, hmembers⟩ := Option.isSome_iff_exists.1 (Table.isSome_get?.2 ha)
  constructor
  · exact (Table.map_fst_putEntry ..).trans (if_pos ha)
  · exact fun m name => ⟨reaches_of_expandGroup hmembers, Reaches.expandGroup hmembers⟩

theorem preserves_foldl {names : List String} (h : ∀ a ∈ names, a ∈ now.names) :
    Preserves now (names.foldl expandGroup now) := by
  induction names generalizing now with
  | nil => exact preserves_refl now
  | cons a names ih =>
    obtain ⟨ha, hnames⟩ := List.forall_mem_cons.1 h
    have hturn := preserves_expandGroup ha
    refine hturn.trans (ih fun x hx => ?_)
    rw [hturn.names]
    exact hnames x hx

theorem preserves_expandPass (now : Table (List String)) : Preserves now (expandPass now) :=
  preserves_foldl fun _ ha => ha

theorem preserves_expandWithin (limit : Nat) (now : Table (List String)) :
    Preserves now (expandWithin limit now).1 := by
  induction limit generalizing now with
  | zero => exact preserves_refl now
  | succ limit ih =>
    rw [expandWithin]
    split
    · exact (preserves_expandPass now).trans (ih (expandPass now))
    · exact preserves_refl now

/-! ### Cycles and long chains -/

theorem Preserves.referred?_eq_none_iff (h : Preserves groups now) :
    referred? now m = none ↔ referred? groups m = none := by
  have hdefined : ∀ b, (now.get? b).isSome = (groups.get? b).isSome := fun b => by
    rw [Bool.eq_iff_iff, Table.isSome_get?, Table.isSome_get?, h.names]
  simp only [Inventory.referred?_eq_none_iff, hdefined]

/-- A cycle of references can be reached from the group, or a chain of more references than there
are passes leads away from it. -/
def Entangled (groups : Table (List String)) (name : String) : Prop :=
  (∃ b, Relation.ReflTransGen (Refers groups) name b ∧ Relation.TransGen (Refers groups) b b) ∨
    ∃ chain, (name :: chain).IsChain (Refers groups) ∧ (name :: chain).Nodup ∧
      passLimit < chain.length

theorem entangled_of_not_shallow (h : ¬Shallow groups name) : Entangled groups name := by
  by_contra hno
  simp only [Entangled, not_or, not_exists, not_and, Nat.not_lt] at hno
  exact h ⟨hno.1, hno.2⟩

theorem referred?_eq_none_of_shallow (hs : Shallow groups name)
    (hg : (expandWithin passLimit groups).1.get? name = some members) (hm : m ∈ members) :
    referred? groups m = none := by
  have hname : name ∈ groups.names := by
    rw [← (preserves_expandWithin passLimit groups).names]
    exact Table.isSome_get?.1 (by rw [hg]; rfl)
  obtain ⟨before, hbefore⟩ := Option.isSome_iff_exists.1 (Table.isSome_get?.2 hname)
  obtain ⟨-, -, hnone⟩ := (expands_refl groups).expandWithin passLimit (d := passLimit)
  exact hnone name before members hbefore ((shallow_iff hbefore).1 hs) (by decide) hg m hm

/-- Groups that refer to each other in any way are expanded in the end. They keep their names and
their order, and what can be reached from each of them is what could be reached before; only an
entangled group may have references left. -/
theorem reaches_of_expandReferences (i : Inventory) : ∃ j, i.expandReferences.outcome = .ok j ∧
    j.groups.names = i.groups.names ∧
    (∀ name m, Reaches j.groups m name ↔ Reaches i.groups m name) ∧
    ∀ name members, j.groups.get? name = some members →
      (∃ m ∈ members, (referred? j.groups m).isSome = true) → Entangled i.groups name := by
  have hkept := preserves_expandWithin passLimit i.groups
  refine ⟨_, expandReferences_outcome i, hkept.names, fun name m => hkept.reaches m name, ?_⟩
  rintro name members hg ⟨m, hm, hsome⟩
  refine entangled_of_not_shallow fun hs => ?_
  have hnone := hkept.referred?_eq_none_iff.2 (referred?_eq_none_of_shallow hs hg hm)
  rw [hnone] at hsome
  cases hsome

/-- Two groups that refer to each other and nothing else, and one that refers to the first. -/
def knotted : Inventory where
  groups := ⟨[("a", ["@b"]), ("b", ["@a"]), ("c", ["@a", "h1", "@nowhere"])], by decide⟩
  defaults := ⟨⟨"", "", false⟩, 0⟩
  source := none

theorem reaches_of_knotted : ∃ j, knotted.expandReferences.outcome = .ok j ∧
    j.groups.names = ["a", "b", "c"] ∧ j.groups.get? "c" = some ["@a", "h1", "@nowhere"] ∧
    (∀ m, Reaches j.groups m "c" ↔ Reaches knotted.groups m "c") ∧
    Entangled knotted.groups "c" := by
  obtain ⟨j, hj, hnames, hreaches, hleft⟩ := reaches_of_expandReferences knotted
  have hc : j.groups.get? "c" = some ["@a", "h1", "@nowhere"] := by
    rw [expandReferences_outcome] at hj
    cases hj
    decide +kernel
  refine ⟨j, hj, hnames, hc, hreaches "c", hleft "c" _ hc ⟨"@a", by simp, ?_⟩⟩
  rw [expandReferences_outcome] at hj
  cases hj
  decide +kernel

end StateCheck.Inventory
