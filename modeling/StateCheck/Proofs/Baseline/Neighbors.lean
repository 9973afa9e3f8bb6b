import StateCheck.Proofs.Baseline.Hazards

/-!
Neighbors that are asserted: one for each interface behind which a system is named, which is the
first one named in all the entries of the interface.
-/

namespace StateCheck.Baseline.Lldp

variable {s : Source} {doc e : Json.Value} {es : List Json.Value} {seen names : List String}
  {name remote : String}

/-! ### What is named behind an interface -/

/-- The states of all neighbors can be asked for a name. -/
def IsOrderly (e : Json.Value) : Prop :=
  ∀ n ∈ inside "neighbors" "neighbor" e, isObject (stateOf n) = true

/-- The systems that are named in an entry. -/
def systems (e : Json.Value) : List String :=
  ((inside "neighbors" "neighbor" e).map systemName).filter (· ≠ "")

/-- The systems that are named in all the entries of an interface. -/
def systemsBehind (es : List Json.Value) (name : String) : List String :=
  (es.filter fun e => interfaceName e = name).flatMap systems

/-- The first of them. -/
def systemBehind (es : List Json.Value) (name : String) : String := (systemsBehind es name).headD ""

/-- The place of the entry in which it is named. -/
def placeOf (es : List Json.Value) (name : String) : Nat :=
  es.findIdx fun e => interfaceName e = name ∧ systems e ≠ []

theorem systems_ne_nil_iff :
    systems e ≠ [] ↔ ∃ n ∈ inside "neighbors" "neighbor" e, systemName n ≠ "" := by
  simp [systems]

theorem systemsBehind_ne_nil_iff : systemsBehind es name ≠ [] ↔
    ∃ e ∈ es, interfaceName e = name ∧ systems e ≠ [] := by
  simp [systemsBehind]

theorem systemsBehind_cons (e : Json.Value) (es : List Json.Value) (name : String) :
    systemsBehind (e :: es) name =
      (if interfaceName e = name then systems e else []) ++ systemsBehind es name := by
  unfold systemsBehind
  rw [List.filter_cons]
  by_cases h : interfaceName e = name <;> simp [h]

theorem placeOf_cons (e : Json.Value) (es : List Json.Value) (name : String) :
    placeOf (e :: es) name =
      if interfaceName e = name ∧ systems e ≠ [] then 0 else placeOf es name + 1 := by
  unfold placeOf
  rw [List.findIdx_cons]
  by_cases h : interfaceName e = name ∧ systems e ≠ [] <;> simp [h]

/-- The search for a system ends at the first one that is named. -/
theorem map_decisive? (h : IsOrderly e) : (decisive? e).map systemName = (systems e).head? := by
  have hdecisive : ∀ n ∈ inside "neighbors" "neighbor" e,
      isDecisive n = decide (systemName n ≠ "") := by
    intro n hn
    simp [isDecisive, h n hn]
  unfold decisive? systems
  rw [← List.head?_filter, List.filter_congr hdecisive, ← List.head?_map, List.filter_map]
  rfl

/-! ### What is asserted -/

theorem assertionsAfter_of_silent (he : isObject e = true) (h : IsOrderly e)
    (hsilent : Admits (interfaceName e) ∧ interfaceName e ∉ seen → systems e = []) :
    assertionsAfter seen (e :: es) = assertionsAfter seen es := by
  rw [assertionsAfter_cons he]
  split
  · next hmet =>
    have hnone : decisive? e = none := by
      rw [← Option.map_eq_none_iff, map_decisive? h, hsilent hmet]
      rfl
    rw [hnone]
  · rfl

theorem assertionsAfter_of_heard {rest : List String} (he : isObject e = true) (h : IsOrderly e)
    (hmet : Admits (interfaceName e) ∧ interfaceName e ∉ seen)
    (hheard : systems e = remote :: rest) :
    assertionsAfter seen (e :: es) = (assertionsAfter (interfaceName e :: seen) es).map
      (neighborAssertion (interfaceName e) remote :: ·) := by
  have hmap := map_decisive? h
  rw [hheard, List.head?_cons, Option.map_eq_some_iff] at hmap
  obtain ⟨n, hn, rfl⟩ := hmap
  have hstate : isObject (stateOf n) = true := h n (List.mem_of_find?_eq_some hn)
  rw [assertionsAfter_cons he, if_pos hmet, hn]
  dsimp only
  rw [if_pos hstate]
  cases assertionsAfter (interfaceName e :: seen) es <;> rfl

/-- The interfaces about which something is asserted, in the order of the entries that name their
systems. -/
structure Named (seen : List String) (es : List Json.Value) (names : List String) : Prop where
  mem_iff : ∀ name, name ∈ names ↔ (Admits name ∧ name ∉ seen) ∧ systemsBehind es name ≠ []
  inOrder : names.Pairwise fun a b => placeOf es a < placeOf es b

theorem Named.silent (h : Named seen es names)
    (hsilent : Admits (interfaceName e) ∧ interfaceName e ∉ seen → systems e = []) :
    Named seen (e :: es) names ∧
      ∀ name ∈ names, systemsBehind (e :: es) name = systemsBehind es name := by
  have hsame (name : String) (hmet : Admits name ∧ name ∉ seen) :
      ¬(interfaceName e = name ∧ systems e ≠ []) := by
    rintro ⟨rfl, hne⟩
    exact hne (hsilent hmet)
  have hsystems (name : String) (hmet : Admits name ∧ name ∉ seen) :
      systemsBehind (e :: es) name = systemsBehind es name := by
    have hnot := hsame name hmet
    rw [systemsBehind_cons]
    split
    · next heq =>
      have hnil : systems e = [] := not_not.1 fun hne => hnot ⟨heq, hne⟩
      rw [hnil, List.nil_append]
    · rw [List.nil_append]
  refine ⟨⟨fun name => ?_, ?_⟩, fun name hmem => hsystems name ((h.mem_iff name).1 hmem).1⟩
  · rw [h.mem_iff]
    exact and_congr_right fun hmet => by rw [hsystems name hmet]
  · refine h.inOrder.imp_of_mem fun {a b} ha hb hlt => ?_
    rw [placeOf_cons, placeOf_cons, if_neg (hsame a ((h.mem_iff a).1 ha).1),
      if_neg (hsame b ((h.mem_iff b).1 hb).1)]
    exact Nat.succ_lt_succ hlt

theorem Named.heard (h : Named (interfaceName e :: seen) es names)
    (hmet : Admits (interfaceName e) ∧ interfaceName e ∉ seen) (hheard : systems e ≠ []) :
    Named seen (e :: es) (interfaceName e :: names) ∧
      ∀ name ∈ names, systemsBehind (e :: es) name = systemsBehind es name := by
  have hne (name : String) (hmem : name ∈ names) : interfaceName e ≠ name := by
    rintro rfl
    exact ((h.mem_iff _).1 hmem).1.2 List.mem_cons_self
  have hsystems (name : String) (hname : interfaceName e ≠ name) :
      systemsBehind (e :: es) name = systemsBehind es name := by
    rw [systemsBehind_cons, if_neg hname, List.nil_append]
  refine ⟨⟨fun name => ?_, List.pairwise_cons.2 ⟨fun name hmem => ?_, ?_⟩⟩,
    fun name hmem => hsystems name (hne name hmem)⟩
  · rw [List.mem_cons, h.mem_iff]
    by_cases hname : interfaceName e = name
    · subst hname
      refine iff_of_true (.inl rfl) ⟨hmet, ?_⟩
      rw [systemsBehind_cons, if_pos rfl]
      exact List.append_ne_nil_of_left_ne_nil hheard _
    · rw [or_iff_right (Ne.symm hname), hsystems name hname, List.mem_cons, not_or]
      simp only [Ne.symm hname, not_false_eq_true, true_and]
  · rw [placeOf_cons, if_pos ⟨rfl, hheard⟩, placeOf_cons, if_neg fun heq => hne name hmem heq.1]
    exact Nat.succ_pos _
  · refine h.inOrder.imp_of_mem fun {a b} ha hb hlt => ?_
    rw [placeOf_cons, placeOf_cons, if_neg fun heq => hne a ha heq.1,
      if_neg fun heq => hne b hb heq.1]
    exact Nat.succ_lt_succ hlt

theorem exists_named (seen : List String) (hes : ∀ e ∈ es, isObject e = true)
    (h : ∀ e ∈ es, IsOrderly e) : ∃ names, Named seen es names ∧
      assertionsAfter seen es =
        .ok (names.map fun name => neighborAssertion name (systemBehind es name)) := by
  -- Only an entry that is heard adds to the interfaces met before, so the induction is for any
  -- of these; an entry without systems leaves the rest as if it were not there.
  induction es generalizing seen with
  | nil => exact ⟨[], ⟨fun name => by simp [systemsBehind], .nil⟩, rfl⟩
  | cons e es ih =>
    obtain ⟨he, hrest⟩ := List.forall_mem_cons.1 hes
    obtain ⟨horderly, hothers⟩ := List.forall_mem_cons.1 h
    by_cases hsilent : Admits (interfaceName e) ∧ interfaceName e ∉ seen → systems e = []
    · obtain ⟨names, hnames, hassertions⟩ := ih seen hrest hothers
      obtain ⟨hnamed, hsystems⟩ := hnames.silent hsilent
      refine ⟨names, hnamed, ?_⟩
      rw [assertionsAfter_of_silent he horderly hsilent, hassertions]
      refine congrArg Except.ok (List.map_congr_left fun name hmem => ?_)
      rw [systemBehind, systemBehind, hsystems name hmem]
    · obtain ⟨hmet, hheard⟩ := Classical.not_imp.1 hsilent
      obtain ⟨remote, rest, hremote⟩ := List.exists_cons_of_ne_nil hheard
      obtain ⟨names, hnames, hassertions⟩ := ih (interfaceName e :: seen) hrest hothers
      obtain ⟨hnamed, hsystems⟩ := hnames.heard hmet hheard
      refine ⟨interfaceName e :: names, hnamed, ?_⟩
      have hfirst : systemBehind (e :: es) (interfaceName e) = remote := by
        rw [systemBehind, systemsBehind_cons, if_pos rfl, hremote]
        rfl
      rw [assertionsAfter_of_heard he horderly hmet hremote, hassertions, List.map_cons, hfirst]
      refine congrArg (fun as => Except.ok (_ :: as)) (List.map_congr_left fun name hmem => ?_)
      rw [systemBehind, systemBehind, hsystems name hmem]

/-- The assertion expects the name of a system behind an interface. -/
structure Expects (name system : String) (a : Assertion) : Prop where
  path : a.path = "lldp/interfaces/interface[name=" ++ name ++
    "]/neighbors/neighbor/state/system-name"
  predicate : a.predicate = some ⟨.contains, .text system⟩
  name : a.name = "LLDP " ++ name ++ " connects to " ++ system

/-- Where the states of neighbors are objects, one assertion is made for each interface that is not
passed over and behind which a system is named, in any of its entries. It expects the first system
that the entries of the interface name, and stands in the order of the entry that does. -/
theorem neighbors_of_survey (h : s.Reports Lldp.path doc)
    (horderly : ∀ e ∈ entries doc "interface", IsOrderly e) :
    ∃ names found, (generator.survey s).outcome = .ok found ∧
      List.Forall₂ (fun name a => Expects name (systemBehind (entries doc "interface") name) a)
        names found ∧
      (∀ name, name ∈ names ↔ Admits name ∧ ∃ e ∈ entries doc "interface", interfaceName e = name ∧
        ∃ n ∈ inside "neighbors" "neighbor" e, systemName n ≠ "") ∧
      names.Pairwise (fun a b =>
        placeOf (entries doc "interface") a < placeOf (entries doc "interface") b) ∧
      names.Nodup := by
  have hempty (hnot : isObject doc = false) : assertions doc = .ok [] := by
    rw [assertions, entries_of_not_isObject hnot]
    rfl
  obtain ⟨names, hnamed, hassertions⟩ :=
    exists_named [] (fun _ he => isObject_of_mem_entries he) horderly
  have houtcome : (generator.survey s).outcome = .ok (names.map fun name =>
      neighborAssertion name (systemBehind (entries doc "interface") name)) :=
    (outcome_of_reports h hempty).trans (congrArg _ hassertions)
  refine ⟨names, _, houtcome, ?_, fun name => ?_, hnamed.inOrder,
    hnamed.inOrder.imp fun hlt heq => ?_⟩
  · rw [List.forall₂_map_right_iff, List.forall₂_same]
    exact fun name _ => ⟨rfl, rfl, rfl⟩
  · simp only [hnamed.mem_iff, systemsBehind_ne_nil_iff, systems_ne_nil_iff, List.not_mem_nil,
      not_false_eq_true, and_true]
  · rw [heq] at hlt
    exact Nat.lt_irrefl _ hlt

def scatteredText : String :=
  "\x7b\"interface\":[\x7b\"name\":\"a\"\x7d,\x7b\"name\":\"b\",\"neighbors\":" ++
    "\x7b\"neighbor\":[\x7b\"state\":\x7b\"system-name\":\"x\"\x7d\x7d]\x7d\x7d," ++
    "\x7b\"name\":\"a\",\"neighbors\":" ++
    "\x7b\"neighbor\":[\x7b\"state\":\x7b\"system-name\":\"y\"\x7d\x7d]\x7d\x7d]\x7d"

def namingEntry (name system : String) : Json.Value :=
  .object [("name", .string name), ("neighbors", .object [("neighbor", .array
    [.object [("state", .object [("system-name", .string system)])]])])]

def scatteredEntries : List Json.Value :=
  [.object [("name", .string "a")], namingEntry "b" "x", namingEntry "a" "y"]

theorem decode_scatteredText :
    decode scatteredText = .object [("interface", .array scatteredEntries)] := by cbv

/-- A device that names no system in the first entry of an interface, and one in a later entry. -/
def scattered : Source := .ofTexts [(Lldp.path, scatteredText)]

theorem neighbors_of_scattered :
    scattered.Reports Lldp.path (.object [("interface", .array scatteredEntries)]) ∧
    (∀ e ∈ scatteredEntries, IsOrderly e) ∧
    ∃ names found, (generator.survey scattered).outcome = .ok found ∧
      List.Forall₂ (fun name a => Expects name (systemBehind scatteredEntries name) a) names found ∧
      "a" ∈ names ∧ "b" ∈ names ∧
      placeOf scatteredEntries "b" < placeOf scatteredEntries "a" := by
  have hshows : scattered.Shows Lldp.path scatteredText := shows_ofTexts rfl
  have hreports := shows_of_reports.2 ⟨_, hshows, decode_scatteredText⟩
  have horderly : ∀ e ∈ scatteredEntries, IsOrderly e := by
    unfold IsOrderly
    decide
  obtain ⟨names, found, houtcome, hexpects, hmem, -⟩ := neighbors_of_survey hreports horderly
  refine ⟨hreports, horderly, names, found, houtcome, hexpects, (hmem _).2 ?_, (hmem _).2 ?_, ?_⟩
  · decide
  · decide
  · decide

end StateCheck.Baseline.Lldp
