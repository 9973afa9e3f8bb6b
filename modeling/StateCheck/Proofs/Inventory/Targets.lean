import StateCheck.Proofs.Inventory.Reachability

/-!
Targets that name groups: what takes their place, and that no assertion is lost or added by it.
-/

namespace StateCheck.Inventory

variable {i j : Inventory} {groups : Table (List String)} {t u : Target} {m b : String}
  {ms members out : List String}

/-! ### Stand-ins -/

/-- The targets that take the place of a target: if it names a group, one for each member that the
group comes to. -/
inductive Replaced (i : Inventory) (t : Target) : List Target → Prop
  | itself (h : referred? i.groups t.host = none) : Replaced i t [t]
  | members {members out : List String} (hr : referred? i.groups t.host = some members)
      (hf : Flattens i.groups members out) :
      Replaced i t (out.map fun m => { t with host := i.defaults.address m })

/-- The targets that an expansion puts in the place of a target. -/
def standIns (i : Inventory) (t : Target) : List Target :=
  match referred? i.groups t.host with
  | some members => members.map fun m => { t with host := i.defaults.address m }
  | none => [t]

theorem standIns_of_none (h : referred? i.groups t.host = none) : i.standIns t = [t] := by
  rw [standIns, h]

theorem standIns_of_some (h : referred? i.groups t.host = some members) :
    i.standIns t = members.map fun m => { t with host := i.defaults.address m } := by
  rw [standIns, h]

theorem expandTarget_outcome (i : Inventory) (t : Target) :
    (i.expandTarget t).outcome = .ok (i.standIns t) := by
  unfold expandTarget standIns referred?
  cases reference? t.host with
  | none => rfl
  | some group =>
    dsimp only [Option.bind_some]
    cases i.groups.get? group with
    | none => rfl
    | some members => rfl

theorem expandTargets_outcome (i : Inventory) (ts : List Target) :
    (i.expandTargets ts).outcome = .ok (ts.flatMap i.standIns) := by
  induction ts with
  | nil => rfl
  | cons t ts ih =>
    simp only [expandTargets, Noted.outcome_bind, expandTarget_outcome, Except.bind, ih,
      Noted.outcome_pure, List.flatMap_cons]

theorem expandFile_outcome (i : Inventory) (f : AssertionFile) :
    (i.expandFile f "").outcome = .ok ⟨f.targets.flatMap i.standIns⟩ := by
  simp only [expandFile, Noted.outcome_bind, expandTargets_outcome, Except.bind, if_true,
    Noted.outcome_pure]

/-! ### Hosts -/

/-- Members refer to no groups but those that there are. -/
def Closed (groups : Table (List String)) : Prop :=
  ∀ name members, groups.get? name = some members →
    ∀ m ∈ members, ∀ b, reference? m = some b → (groups.get? b).isSome = true

theorem Flattens.reference?_eq_none (hclosed : Closed groups) (h : Flattens groups ms out)
    (hms : ∀ m ∈ ms, ∀ b, reference? m = some b → (groups.get? b).isSome = true) :
    ∀ m ∈ out, reference? m = none := by
  induction h with
  | nil => exact List.forall_mem_nil _
  | @kept m ms out h _ ih =>
    obtain ⟨hm, hrest⟩ := List.forall_mem_cons.1 hms
    refine List.forall_mem_cons.2 ⟨?_, ih hrest⟩
    refine Option.eq_none_iff_forall_ne_some.2 fun b hb => ?_
    have hundefined := referred?_eq_none_iff.1 h b hb
    rw [hm b hb] at hundefined
    cases hundefined
  | replaced h _ _ ihead itail =>
    obtain ⟨b, -, hinner⟩ := referred?_eq_some_iff.1 h
    have hrest := itail (List.forall_mem_cons.1 hms).2
    exact List.forall_mem_append.2 ⟨ihead (hclosed b _ hinner), hrest⟩

theorem reference?_eq_none_iff : reference? m = none ↔ m.toList.head? ≠ some '@' := by
  unfold reference?
  split
  · next h => simp [h]
  · next h =>
    refine iff_of_true rfl fun hhead => ?_
    obtain ⟨name, hname⟩ := List.head?_eq_some_iff.1 hhead
    exact h name hname

/-- A port behind a host makes no reference of it. -/
theorem reference?_address (d : Defaults) (h : reference? m = none) :
    reference? (d.address m) = none := by
  unfold Defaults.address
  split
  · exact h
  · rw [reference?_eq_none_iff] at h ⊢
    cases hm : m.toList with
    | nil => simp [hm]
    | cons c cs => simpa [hm] using h

/-! ### Assertions -/

theorem size_append (ts us : List Target) :
    AssertionFile.size ⟨ts ++ us⟩ = AssertionFile.size ⟨ts⟩ + AssertionFile.size ⟨us⟩ := by
  induction ts with
  | nil => exact (Nat.zero_add _).symm
  | cons t ts ih =>
    have hcons : ∀ ts, AssertionFile.size ⟨t :: ts⟩ =
        t.assertions.length + AssertionFile.size ⟨ts⟩ := fun _ => rfl
    rw [List.cons_append, hcons, hcons, ih, Nat.add_assoc]

theorem size_of_same {ts : List Target} (h : ∀ u ∈ ts, u.assertions = t.assertions) :
    AssertionFile.size ⟨ts⟩ = t.assertions.length * ts.length := by
  induction ts with
  | nil => rfl
  | cons u us ih =>
    obtain ⟨hu, hus⟩ := List.forall_mem_cons.1 h
    have hcons : AssertionFile.size ⟨u :: us⟩ =
        u.assertions.length + AssertionFile.size ⟨us⟩ := rfl
    rw [hcons, hu, ih hus, List.length_cons, Nat.mul_succ, Nat.add_comm]

theorem Replaced.assertions {ts : List Target} (h : Replaced i t ts) :
    ∀ u ∈ ts, u.assertions = t.assertions := by
  cases h with
  | itself => simp
  | members =>
    intro u hu
    obtain ⟨m, -, rfl⟩ := List.mem_map.1 hu
    rfl

theorem size_flatten {ts : List Target} {tss : List (List Target)}
    (h : List.Forall₂ (Replaced i) ts tss) : AssertionFile.size ⟨tss.flatten⟩ =
      (List.zipWith (fun t us => t.assertions.length * us.length) ts tss).sum := by
  induction h with
  | nil => rfl
  | cons hr _ ih =>
    rw [List.flatten_cons, size_append, size_of_same hr.assertions, ih, List.zipWith_cons_cons,
      List.sum_cons]

/-! ### Expansion -/

/-- The inventory whose groups the passes have expanded. -/
def flat (i : Inventory) : Inventory := { i with groups := (expandWithin passLimit i.groups).1 }

theorem referred?_flat : referred? i.flat.groups m = none ↔ referred? i.groups m = none :=
  (preserves_expandWithin passLimit i.groups).referred?_eq_none_iff

section

variable (hshallow : ∀ name ∈ i.groups.names, Shallow i.groups name)

include hshallow

theorem exists_flattens_flat (hr : referred? i.groups m = some members) :
    ∃ out, referred? i.flat.groups m = some out ∧ Flattens i.groups members out := by
  obtain ⟨b, hb, hg⟩ := referred?_eq_some_iff.1 hr
  have hname : b ∈ i.groups.names := Table.isSome_get?.1 (by rw [hg]; rfl)
  obtain ⟨out, hout, hf⟩ := exists_flat hg (hshallow b hname)
  exact ⟨out, referred?_eq_some_iff.2 ⟨b, hb, hout⟩, hf⟩

theorem replaced_standIns (t : Target) : Replaced i t (i.flat.standIns t) := by
  cases hr : referred? i.groups t.host with
  | none =>
    rw [standIns_of_none (referred?_flat.2 hr)]
    exact .itself hr
  | some members =>
    obtain ⟨out, hout, hf⟩ := exists_flattens_flat hshallow hr
    rw [standIns_of_some hout]
    exact .members hr hf

theorem forall₂_standIns (ts : List Target) :
    List.Forall₂ (Replaced i) ts (ts.map i.flat.standIns) := by
  induction ts with
  | nil => exact .nil
  | cons t ts ih => exact .cons (replaced_standIns hshallow t) ih

end

/-- Nothing that takes the place of a target names a group. -/
theorem Replaced.referred?_eq_none {ts : List Target} (hclosed : Closed i.groups)
    (h : Replaced i t ts) : ∀ u ∈ ts, Inventory.referred? i.groups u.host = none := by
  cases h with
  | itself h => simpa using h
  | members hr hf =>
    intro u hu
    obtain ⟨m, hm, rfl⟩ := List.mem_map.1 hu
    obtain ⟨b, -, hg⟩ := referred?_eq_some_iff.1 hr
    have hhost := reference?_address i.defaults
      (hf.reference?_eq_none hclosed (hclosed b _ hg) m hm)
    simp only [Inventory.referred?, hhost, Option.bind_none]

theorem flatMap_standIns {ts : List Target}
    (h : ∀ t ∈ ts, referred? i.groups t.host = none) : ts.flatMap i.standIns = ts := by
  induction ts with
  | nil => rfl
  | cons t ts ih =>
    obtain ⟨ht, hts⟩ := List.forall_mem_cons.1 h
    rw [List.flatMap_cons, standIns_of_none ht, ih hts, List.singleton_append]

/-- If members refer to nothing but groups, and all groups are shallow, every target that names a
group is replaced in its place by one target for each member of the flattening of that group, and
every other target stays. So assertions are repeated for each member and none is lost, no target
is left that names a group, and another expansion changes nothing. -/
theorem replaced_of_expandFile (i : Inventory) (hclosed : Closed i.groups)
    (hshallow : ∀ name ∈ i.groups.names, Shallow i.groups name) (f : AssertionFile) :
    ∃ j g tss, i.expandReferences.outcome = .ok j ∧ (j.expandFile f "").outcome = .ok g ∧
      List.Forall₂ (Replaced i) f.targets tss ∧ g.targets = tss.flatten ∧
      g.size = (List.zipWith (fun t us => t.assertions.length * us.length) f.targets tss).sum ∧
      (∀ t ∈ g.targets, referred? j.groups t.host = none) ∧
      (j.expandFile g "").outcome = .ok g := by
  have hreplaced := forall₂_standIns hshallow f.targets
  have hnone : ∀ t ∈ f.targets.flatMap i.flat.standIns, referred? i.flat.groups t.host = none := by
    intro u hu
    obtain ⟨t, -, hu⟩ := List.mem_flatMap.1 hu
    exact referred?_flat.2 ((replaced_standIns hshallow t).referred?_eq_none hclosed u hu)
  refine ⟨i.flat, ⟨f.targets.flatMap i.flat.standIns⟩, f.targets.map i.flat.standIns,
    expandReferences_outcome i, expandFile_outcome i.flat f, hreplaced, List.flatMap_def,
    ?_, hnone, ?_⟩
  · rw [← size_flatten hreplaced, List.flatMap_def]
  · rw [expandFile_outcome, flatMap_standIns hnone]

/-- A group of a group, and hosts of which one has a port. -/
def nested : Inventory where
  groups := ⟨[("fabric", ["@leaves", "h0:1", "@leaves"]), ("leaves", ["h1"])], by decide⟩
  defaults := ⟨⟨"", "", false⟩, 57400⟩
  source := none

theorem closed_nested : Closed nested.groups := by
  have hall : ∀ e ∈ nested.groups.entries, ∀ m ∈ e.2, ∀ b ∈ reference? m,
      (nested.groups.get? b).isSome = true := by decide +kernel
  exact fun name members hg => hall (name, members) (Table.get?_eq_some_iff.1 hg)

theorem shallow_nested : ∀ name ∈ nested.groups.names, Shallow nested.groups name := by
  have hnames : nested.groups.names = ["fabric", "leaves"] := rfl
  rw [hnames]
  simp only [List.forall_mem_cons]
  refine ⟨?_, ?_, List.forall_mem_nil _⟩
  · exact (shallow_iff rfl).2 (by decide +kernel)
  · exact (shallow_iff rfl).2 (by decide +kernel)

/-- A target that names a group, one that names none of the groups, and a host. -/
def mixedFile : AssertionFile :=
  let a : Assertion := ⟨"/system", none, "", ""⟩
  ⟨[⟨"@fabric", .none, [a, a]⟩, ⟨"@nowhere", .none, [a]⟩, ⟨"h2", .none, [a]⟩]⟩

theorem replaced_of_nested : Closed nested.groups ∧
    (∀ name ∈ nested.groups.names, Shallow nested.groups name) ∧
    ∃ j g, nested.expandReferences.outcome = .ok j ∧
      (j.expandFile mixedFile "").outcome = .ok g ∧ g.size = 8 ∧ g.targets.map (·.host) =
        ["h1:57400", "h0:1", "h1:57400", "@nowhere", "h2"] ∧
      (j.expandFile g "").outcome = .ok g := by
  obtain ⟨j, g, tss, hj, hg, -, -, -, -, hagain⟩ :=
    replaced_of_expandFile nested closed_nested shallow_nested mixedFile
  refine ⟨closed_nested, shallow_nested, j, g, hj, hg, ?_, ?_, hagain⟩
  all_goals
    rw [expandReferences_outcome] at hj
    cases hj
    rw [expandFile_outcome] at hg
    cases hg
    decide +kernel

end StateCheck.Inventory
