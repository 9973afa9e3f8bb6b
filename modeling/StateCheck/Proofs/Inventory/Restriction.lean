import StateCheck.Proofs.Inventory.Targets

/-!
Targets that are restricted to the members of a group: which of them stay.
-/

namespace StateCheck.Inventory

variable {i : Inventory} {d : Defaults} {f : AssertionFile} {t u : Target} {group m host : String}
  {members : List String}

/-! ### Addresses -/

/-- The default port adds nothing to the address. -/
def Defaults.Completes (d : Defaults) (host : String) : Prop := d.address host = host

instance : Decidable (d.Completes host) := inferInstanceAs (Decidable (d.address host = host))

theorem Defaults.completes_iff : d.Completes host ↔ d.port = 0 ∨ ':' ∈ host.toList := by
  unfold Completes address
  split
  · next h => exact iff_of_true rfl (by simpa using h)
  · next h =>
    refine iff_of_false (fun heq => ?_) (by simpa using h)
    have hlength := congrArg (fun s => s.toList.length) heq
    simp at hlength

theorem Defaults.completes_address (d : Defaults) (host : String) : d.Completes (d.address host) := by
  rw [completes_iff]
  unfold address
  split
  · next h => simpa using h
  · exact .inr (by simp)

/-! ### Members of a group -/

/-- The host is the address of a member, the default port applied to both. -/
def Selects (i : Inventory) (members : List String) (host : String) : Prop :=
  ∃ m ∈ members, i.defaults.address host = i.defaults.address m

instance : Decidable (i.Selects members host) :=
  inferInstanceAs (Decidable (∃ m ∈ members, i.defaults.address host = i.defaults.address m))

theorem selects_of_mem (h : host ∈ members) : i.Selects members host := ⟨host, h, rfl⟩

/-- A host is allowed if it has the address of a member and lacks no port. -/
theorem mem_allowed_iff : host ∈ members.map i.defaults.address ↔
    i.Selects members host ∧ i.defaults.Completes host := by
  rw [List.mem_map]
  constructor
  · rintro ⟨m, hm, rfl⟩
    have hcomplete := i.defaults.completes_address m
    exact ⟨⟨m, hm, hcomplete⟩, hcomplete⟩
  · rintro ⟨⟨m, hm, haddress⟩, hcomplete⟩
    exact ⟨m, hm, haddress.symm.trans hcomplete⟩

theorem restrict_outcome (hg : i.groups.get? group = some members) (ts : List Target) :
    (i.restrict group ts).outcome = .ok (ts.filter fun t =>
      decide (i.Selects members t.host ∧ i.defaults.Completes t.host)) := by
  have hallowed (t : Target) : (members.map i.defaults.address).contains t.host =
      decide (i.Selects members t.host ∧ i.defaults.Completes t.host) := by
    rw [List.contains_eq_mem, decide_eq_decide]
    exact mem_allowed_iff
  unfold restrict
  rw [hg]
  simp only [Noted.outcome_pure, hallowed]

theorem expandFile_restricted (hne : group ≠ "") (hg : i.groups.get? group = some members)
    (f : AssertionFile) : (i.expandFile f group).outcome =
      .ok ⟨(f.targets.flatMap i.standIns).filter fun t =>
        decide (i.Selects members t.host ∧ i.defaults.Completes t.host)⟩ := by
  simp only [expandFile, Noted.outcome_bind, expandTargets_outcome, Except.bind, if_neg hne,
    restrict_outcome hg, Noted.outcome_pure]

/-! ### Targets that stay -/

/-- A target that lacks a port stands for itself: what stands for a group has its port. -/
theorem eq_of_mem_standIns (hu : u ∈ i.standIns t) (h : ¬i.defaults.Completes u.host) :
    u = t ∧ referred? i.groups t.host = none := by
  cases hr : referred? i.groups t.host with
  | none =>
    rw [standIns_of_none hr] at hu
    exact ⟨List.mem_singleton.1 hu, rfl⟩
  | some members =>
    rw [standIns_of_some hr] at hu
    obtain ⟨m, -, rfl⟩ := List.mem_map.1 hu
    exact absurd (i.defaults.completes_address m) h

theorem mem_flatMap_standIns (ht : t ∈ f.targets) (hr : referred? i.groups t.host = none) :
    t ∈ f.targets.flatMap i.standIns := by
  refine List.mem_flatMap.2 ⟨t, ht, ?_⟩
  rw [standIns_of_none hr]
  exact List.mem_singleton_self t

/-- The targets with the address of a member are those that are kept exactly if no target of the
file among them needs the default port. -/
theorem filter_selects_iff (f : AssertionFile) :
    (f.targets.flatMap i.standIns).filter (fun t =>
        decide (i.Selects members t.host ∧ i.defaults.Completes t.host)) =
      (f.targets.flatMap i.standIns).filter (fun t => decide (i.Selects members t.host)) ↔
    ∀ t ∈ f.targets, referred? i.groups t.host = none → i.Selects members t.host →
      i.defaults.Completes t.host := by
  constructor
  · intro h t ht hr hselects
    have hmem : t ∈ (f.targets.flatMap i.standIns).filter fun t =>
        decide (i.Selects members t.host) :=
      List.mem_filter.2 ⟨mem_flatMap_standIns ht hr, decide_eq_true hselects⟩
    rw [← h] at hmem
    exact (of_decide_eq_true (List.mem_filter.1 hmem).2).2
  · intro h
    refine List.filter_congr fun u hu => decide_eq_decide.2 ⟨And.left, fun hselects => ?_⟩
    by_contra hnot
    have hlack : ¬i.defaults.Completes u.host := fun hc => hnot ⟨hselects, hc⟩
    obtain ⟨t, ht, hu⟩ := List.mem_flatMap.1 hu
    obtain ⟨rfl, hr⟩ := eq_of_mem_standIns hu hlack
    exact hlack (h u ht hr hselects)

/-- Restricted to a group, an expansion keeps in their order and unchanged those of its targets
that have the address of a member and need no default port. A target that needs one is a target of
the file itself, and names no group. So exactly the targets with the address of a member are kept
if and only if none of these needs the default port. An empty name restricts nothing, even if a
group has it. -/
theorem restricted_of_expandFile (i : Inventory) (f : AssertionFile)
    (hg : i.groups.get? group = some members) :
    ∃ all kept, (i.expandFile f "").outcome = .ok all ∧
      (i.expandFile f group).outcome = .ok kept ∧
      (∀ t ∈ all.targets, ¬i.defaults.Completes t.host →
        t ∈ f.targets ∧ referred? i.groups t.host = none) ∧
      (group = "" → kept = all) ∧
      (group ≠ "" →
        kept.targets = all.targets.filter (fun t =>
          decide (i.Selects members t.host ∧ i.defaults.Completes t.host)) ∧
        (kept.targets = all.targets.filter (fun t => decide (i.Selects members t.host)) ↔
          ∀ t ∈ f.targets, referred? i.groups t.host = none → i.Selects members t.host →
            i.defaults.Completes t.host)) := by
  have hlacks : ∀ t ∈ f.targets.flatMap i.standIns, ¬i.defaults.Completes t.host →
      t ∈ f.targets ∧ referred? i.groups t.host = none := by
    intro u hu hlack
    obtain ⟨t, ht, hu⟩ := List.mem_flatMap.1 hu
    obtain ⟨rfl, hr⟩ := eq_of_mem_standIns hu hlack
    exact ⟨ht, hr⟩
  by_cases hne : group = ""
  · subst hne
    exact ⟨_, _, expandFile_outcome i f, expandFile_outcome i f, hlacks, fun _ => rfl,
      fun hne => absurd rfl hne⟩
  · exact ⟨_, _, expandFile_outcome i f, expandFile_restricted hne hg f, hlacks,
      fun hempty => absurd hempty hne, fun _ => ⟨rfl, filter_selects_iff f⟩⟩

/-- A target that is written as its member is, one that names the group, and one with a port. -/
def hostsFile : AssertionFile := ⟨["h1", "@leaves", "h0:1"].map fun host => ⟨host, .none, []⟩⟩

theorem restricted_of_nested : nested.groups.get? "leaves" = some ["h1"] ∧
    ∃ all kept, (nested.expandFile hostsFile "").outcome = .ok all ∧
      (nested.expandFile hostsFile "leaves").outcome = .ok kept ∧
      all.targets.map (·.host) = ["h1", "h1:57400", "h0:1"] ∧
      kept.targets.map (·.host) = ["h1:57400"] := by
  have hg : nested.groups.get? "leaves" = some ["h1"] := rfl
  obtain ⟨all, kept, hall, hkept, -, -, hrestricted⟩ := restricted_of_expandFile nested hostsFile hg
  have hfilter := (hrestricted (by decide)).1
  have htargets : all.targets = hostsFile.targets.flatMap nested.standIns := by
    rw [expandFile_outcome] at hall
    rw [← Except.ok.inj hall]
  refine ⟨hg, all, kept, hall, hkept, ?_, ?_⟩
  · rw [htargets]
    decide +kernel
  · rw [hfilter, htargets]
    decide +kernel

/-- A target whose host is written as the only member of a group is written is not kept. -/
theorem dropped_of_missing_port :
    nested.groups.get? "leaves" = some ["h1"] ∧ nested.Selects ["h1"] "h1" ∧
      (nested.expandFile ⟨[⟨"h1", .none, []⟩]⟩ "").outcome = .ok ⟨[⟨"h1", .none, []⟩]⟩ ∧
      (nested.expandFile ⟨[⟨"h1", .none, []⟩]⟩ "leaves").outcome = .ok ⟨[]⟩ := by
  refine ⟨rfl, selects_of_mem List.mem_cons_self, ?_, ?_⟩
  · rw [← toOption_eq_some_iff]
    decide +kernel
  · rw [← toOption_eq_some_iff]
    decide +kernel

end StateCheck.Inventory
