import StateCheck.Proofs.Assertion.Reading
import StateCheck.Proofs.Baseline.Leaves
import StateCheck.Proofs.Table

/-!
Where baselines come from: every assertion is about a part of the state of the device, and the
texts in its path stand in a document that the device reported.
-/

namespace StateCheck.Baseline

/-! ### Documents -/

/-- The documents that a document holds. -/
inductive Within (doc : Json.Value) : Json.Value → Prop
  | whole : Within doc doc
  | member {members : List (String × Json.Value)} {name : String} {v : Json.Value}
      (h : Within doc (.object members)) (hm : (name, v) ∈ members) : Within doc v
  | item {items : List Json.Value} {v : Json.Value} (h : Within doc (.array items))
      (hm : v ∈ items) : Within doc v

/-- The text is empty, or that of a member of some object in the document. -/
def Holds (doc : Json.Value) (name text : String) : Prop :=
  text ≠ "" → ∃ entry v, Within doc entry ∧ entry.get? name = some v ∧ textOf v = text

variable {doc entry v : Json.Value} {name text : String}

theorem mem_listAmong {ms : List (String × Json.Value)} (h : v ∈ listAmong name ms) :
    ∃ k items, (k, .array items) ∈ ms ∧ v ∈ items := by
  fun_induction listAmong name ms with
  | case1 => cases h
  | case2 k items ms hk =>
    exact ⟨k, items, List.mem_cons_self, (List.mem_filter.1 h).1⟩
  | case3 k items ms hk ih =>
    obtain ⟨k', items', hm, hv⟩ := ih h
    exact ⟨k', items', List.mem_cons_of_mem _ hm, hv⟩
  | case4 m ms hm ih =>
    obtain ⟨k', items', hm, hv⟩ := ih h
    exact ⟨k', items', List.mem_cons_of_mem _ hm, hv⟩

theorem Within.entries (h : Within doc entry) (hv : v ∈ entries entry name) : Within doc v := by
  unfold Baseline.entries at hv
  split at hv
  · obtain ⟨k, items, hm, hv⟩ := mem_listAmong hv
    exact (h.member hm).item hv
  · cases hv

theorem Within.get? (h : Within doc entry) (hv : entry.get? name = some v) : Within doc v := by
  unfold Json.Value.get? at hv
  split at hv
  · obtain ⟨before, after, rfl, -⟩ := List.lookup_eq_some_iff.1 hv
    exact h.member (List.mem_append_right _ List.mem_cons_self)
  · cases hv

theorem Within.member? (h : Within doc entry) (hv : member? entry name = some v) :
    Within doc v := by
  unfold Baseline.member? at hv
  split at hv
  · rcases Option.or_eq_some_iff.1 hv with hv | ⟨-, hv⟩
    · exact h.get? hv
    · obtain ⟨m, hm, rfl⟩ := Option.map_eq_some_iff.1 hv
      exact h.member (List.mem_of_find?_eq_some hm)
  · cases hv

/-- The objects in a list under two names. -/
theorem Within.memberEntries (h : Within doc entry) {outer inner : String}
    (hv : v ∈ (Baseline.member? entry outer).elim [] (Baseline.entries · inner)) :
    Within doc v := by
  cases hm : Baseline.member? entry outer with
  | none => simp [hm] at hv
  | some d =>
    rw [hm] at hv
    exact (h.member? hm).entries hv

/-- A state is part of the document unless it is left out. -/
theorem Within.stateOf (h : Within doc entry) :
    Within doc (stateOf entry) ∨ stateOf entry = .object [] := by
  unfold Baseline.stateOf setMember?
  cases hm : (Baseline.member? entry "state").filter Json.Value.isTruthy with
  | none => exact .inr rfl
  | some state => exact .inl (h.member? (Option.filter_eq_some_iff.1 hm).1)

/-! ### Texts -/

theorem ask_eq_ok {m : Option Json.Value} (h : ask entry name = .ok m) : m = entry.get? name := by
  unfold ask at h
  split at h
  · exact (Except.ok.inj h).symm
  · cases h

theorem holds_ask {m : Option Json.Value} (he : Within doc entry ∨ entry = .object [])
    (h : ask entry name = .ok m) : Holds doc name (setText m) := by
  obtain rfl := ask_eq_ok h
  intro hne
  cases hg : entry.get? name with
  | none => simp [hg, setText] at hne
  | some v =>
    rw [hg] at hne
    rcases he with he | rfl
    · refine ⟨entry, v, he, hg, ?_⟩
      unfold setText at hne ⊢
      cases hv : v.isTruthy <;> simp_all [Option.filter]
    · cases hg

theorem holds_textWithState {state : Json.Value} (he : Within doc entry ∨ entry = .object [])
    (hs : Within doc state ∨ state = .object []) (h : textWithState entry state name = .ok text) :
    Holds doc name text := by
  unfold textWithState at h
  obtain ⟨own, hown, h⟩ := bind_eq_ok h
  dsimp only at h
  split at h
  · obtain ⟨other, hother, h⟩ := bind_eq_ok h
    cases h
    exact holds_ask hs hother
  · cases h
    exact holds_ask he hown

/-! ### Lists that are found -/

/-- Whatever is found has the property. -/
def Gives {β : Type} (x : Except Breakdown (List β)) (P : β → Prop) : Prop :=
  ∀ bs, x = .ok bs → ∀ b ∈ bs, P b

section

variable {α β : Type} {P : β → Prop}

theorem gives_ok {bs : List β} (h : ∀ b ∈ bs, P b) : Gives (.ok bs) P := by
  intro bs' hbs
  cases hbs
  exact h

theorem gives_bind {x : Except Breakdown α} {f : α → Except Breakdown (List β)}
    (h : ∀ a, x = .ok a → Gives (f a) P) : Gives (x >>= f) P := by
  intro bs hbs
  obtain ⟨a, ha, hf⟩ := bind_eq_ok hbs
  exact h a ha bs hf

theorem gives_gather {f : α → Except Breakdown (List β)} {as : List α}
    (h : ∀ a ∈ as, Gives (f a) P) : Gives (gather f as) P := by
  induction as with
  | nil => exact gives_ok (List.forall_mem_nil _)
  | cons a as ih =>
    obtain ⟨ha, has⟩ := List.forall_mem_cons.1 h
    refine gives_bind fun first hfirst => gives_bind fun rest hrest => gives_ok ?_
    exact List.forall_mem_append.2 ⟨ha first hfirst, ih has rest hrest⟩

end

/-! ### Assertions -/

/-- The assertion is about the leaf, and the texts of the leaf stand in the document. -/
structure Describes (doc : Json.Value) (leaf : Leaf) (a : Assertion) : Prop where
  path : a.path = leaf.path
  keys : ∀ kv ∈ leaf.keys, Holds doc kv.1 kv.2
  predicate : ∀ p, a.predicate = some p → p.WellFormed

/-- The assertion is about some leaf of which the document tells. -/
def Drawn (doc : Json.Value) (a : Assertion) : Prop := ∃ leaf, Describes doc leaf a

theorem drawn_equality (leaf : Leaf) {path value : String} (hp : path = leaf.path)
    (hk : ∀ kv ∈ leaf.keys, Holds doc kv.1 kv.2) : Drawn doc (equality name path value) := by
  refine ⟨leaf, hp, hk, fun p hp => ?_⟩
  cases hp
  exact ⟨rfl, nofun⟩

namespace Bgp

theorem family_eq_ok {family : String × Bool} (he : Within doc entry)
    (h : Bgp.family entry = .ok (some family)) :
    ∃ full, family.1 = localName full ∧ Holds doc "afi-safi-name" full := by
  unfold Bgp.family at h
  obtain ⟨own, hown, h⟩ := bind_eq_ok h
  obtain ⟨other, hother, h⟩ := bind_eq_ok h
  dsimp only at h
  have hname : family.1 = if localName (setText own) = "" then localName (setText other)
      else localName (setText own) := by
    generalize hn : (if localName (setText own) = "" then localName (setText other)
      else localName (setText own)) = name at h ⊢
    split at h
    · cases h
    · obtain ⟨active, -, h⟩ := bind_eq_ok h
      split at h <;> cases h <;> rfl
  split at hname
  · exact ⟨_, hname, holds_ask he.stateOf hother⟩
  · exact ⟨_, hname, holds_ask (.inl he) hown⟩

theorem drawn_family {address : String} (he : Within doc entry)
    (ha : Holds doc "neighbor-address" address) :
    Gives (familyAssertion address
      ("bgp[default]/neighbors/neighbor[neighbor-address=" ++ address ++ "]") entry)
      (Drawn doc) := by
  refine gives_bind fun found hfound => ?_
  split
  · next name =>
    obtain ⟨full, rfl, hfull⟩ := family_eq_ok he hfound
    refine gives_ok (List.forall_mem_singleton.2 ?_)
    exact drawn_equality (.family address full) rfl
      (List.forall_mem_cons.2 ⟨ha, List.forall_mem_singleton.2 hfull⟩)
  · exact gives_ok (List.forall_mem_nil _)

theorem drawn_neighbor (he : Within doc entry) : Gives (neighborAssertions entry) (Drawn doc) := by
  refine gives_bind fun address haddress => ?_
  have ha : Holds doc "neighbor-address" address :=
    holds_textWithState (.inl he) he.stateOf haddress
  split
  · exact gives_ok (List.forall_mem_nil _)
  · refine gives_bind fun session _ => gives_bind fun families hfamilies => gives_ok ?_
    refine List.forall_mem_cons.2 ⟨drawn_equality (.session address) rfl
      (List.forall_mem_singleton.2 ha), ?_⟩
    exact gives_gather (fun v hv => drawn_family (he.memberEntries hv) ha) families hfamilies

theorem drawn : Gives (assertions doc) (Drawn doc) :=
  gives_gather fun _ hv => drawn_neighbor (Within.whole.entries hv)

end Bgp

namespace Ospf

theorem drawn_neighbor {areaId interfaceId : String} (he : Within doc entry)
    (ha : Holds doc "identifier" areaId) (hi : Holds doc "id" interfaceId) :
    Gives (neighborAssertions areaId interfaceId entry) (Drawn doc) := by
  refine gives_bind fun adjacency _ => ?_
  dsimp only
  split
  · exact gives_ok (List.forall_mem_nil _)
  · refine gives_bind fun neighborId hneighbor => gives_ok (List.forall_mem_singleton.2 ?_)
    have hn : Holds doc "neighbor-id" neighborId :=
      holds_textWithState he.stateOf (.inl he) hneighbor
    exact drawn_equality (.adjacency areaId interfaceId neighborId) rfl
      (List.forall_mem_cons.2 ⟨ha, List.forall_mem_cons.2 ⟨hi, List.forall_mem_singleton.2 hn⟩⟩)

theorem drawn_interface {areaId : String} (he : Within doc entry)
    (ha : Holds doc "identifier" areaId) : Gives (interfaceAssertions areaId entry) (Drawn doc) :=
  gives_bind fun _ hi => gives_gather fun _ hv =>
    drawn_neighbor (he.memberEntries hv) ha (holds_ask (.inl he) hi)

theorem drawn_area (he : Within doc entry) : Gives (areaAssertions entry) (Drawn doc) :=
  gives_bind fun _ ha => gives_gather fun _ hv =>
    drawn_interface (he.memberEntries hv) (holds_ask (.inl he) ha)

theorem drawn : Gives (assertions doc) (Drawn doc) :=
  gives_gather fun _ hv => drawn_area (Within.whole.entries hv)

end Ospf

namespace Interfaces

theorem drawn_interface (he : Within doc entry) :
    Gives (interfaceAssertions entry) (Drawn doc) := by
  refine gives_bind fun name hname => ?_
  have hn : Holds doc "name" name := holds_textWithState (.inl he) he.stateOf hname
  split
  · exact gives_ok (List.forall_mem_nil _)
  · next hset =>
    refine gives_bind fun admin _ => ?_
    split
    · exact gives_ok (List.forall_mem_nil _)
    · refine gives_bind fun status _ => gives_ok (List.forall_mem_singleton.2 ?_)
      exact drawn_equality (.status name fun hempty => hset (.inl hempty)) rfl
        (List.forall_mem_singleton.2 hn)

theorem drawn : Gives (assertions doc) (Drawn doc) :=
  gives_gather fun _ hv => drawn_interface (Within.whole.entries hv)

end Interfaces

namespace Lldp

theorem drawn_after {seen : List String} {found : List Json.Value}
    (h : ∀ v ∈ found, Within doc v) : Gives (assertionsAfter seen found) (Drawn doc) := by
  induction found generalizing seen with
  | nil => exact gives_ok (List.forall_mem_nil _)
  | cons entry rest ih =>
    obtain ⟨he, hrest⟩ := List.forall_mem_cons.1 h
    refine gives_bind fun name hname => ?_
    dsimp only
    split
    · exact ih hrest
    · refine gives_bind fun remote _ => ?_
      split
      · exact ih hrest
      · refine gives_bind fun others hothers => gives_ok (List.forall_mem_cons.2 ⟨?_, ?_⟩)
        · refine ⟨.system (setText name), rfl, ?_, fun p hp => ?_⟩
          · exact List.forall_mem_singleton.2 (holds_ask (.inl he) hname)
          · cases hp
            exact ⟨rfl, nofun⟩
        · exact ih hrest others hothers

theorem drawn : Gives (assertions doc) (Drawn doc) :=
  drawn_after fun _ hv => Within.whole.entries hv

end Lldp

namespace Vxlan

/-- The texts of the pairs stand in the document. -/
theorem holds_vrfPair (he : Within doc entry) :
    Gives (vrfPair entry) fun p => Holds doc "vrf" p.1 := by
  refine gives_bind fun vrf hvrf => gives_bind fun vni _ => gives_ok ?_
  split
  · exact List.forall_mem_singleton.2 (holds_ask (.inl he) hvrf)
  · exact List.forall_mem_nil _

theorem drawn {vxlan : Json.Value} (he : Within doc vxlan) :
    Gives (tunnelAssertions vxlan) (Drawn doc) := by
  refine gives_bind fun source _ => gives_bind fun vlans _ => gives_bind fun vrfs hvrfs =>
    gives_ok ?_
  have hholds : ∀ p ∈ vrfs, Holds doc "vrf" p.1 := by
    refine gives_gather (fun v hv => holds_vrfPair ?_) vrfs hvrfs
    unfold mapEntries at hv
    cases hm : vxlan.get? "vrf-to-vnis" with
    | none => simp [hm] at hv
    | some list =>
      rw [hm] at hv
      exact (he.get? hm).entries hv
  refine List.forall_mem_append.2 ⟨List.forall_mem_append.2 ⟨?_, ?_⟩, ?_⟩
  · unfold sourceAssertion
    split
    · exact List.forall_mem_nil _
    · exact List.forall_mem_singleton.2
        (drawn_equality .tunnelSource rfl (List.forall_mem_nil _))
  · refine List.forall_mem_map.2 fun p _ => ?_
    exact drawn_equality (.vlan p.1) rfl (List.forall_mem_nil _)
  · refine List.forall_mem_map.2 fun p hp => ?_
    have hmem := (List.mergeSort_perm vrfs vrfLe).mem_iff.1 hp
    exact drawn_equality (.vrf p.1) rfl (List.forall_mem_singleton.2 (hholds p hmem))

end Vxlan

/-! ### Surveys -/

namespace Survey

variable {α β : Type}

theorem outcome_bind (x : Survey α) (f : α → Survey β) (s : Source) :
    ((x >>= f) s).outcome = (x s).outcome.bind fun a => (f a s).outcome := by
  change (Survey.bind x f s).outcome = _
  unfold Survey.bind
  cases (x s).outcome <;> rfl

end Survey

/-- The device answers the request for a path with the document. -/
def Source.Reports (s : Source) (path : String) (doc : Json.Value) : Prop :=
  ∃ answer text, s.answer path = .ok answer ∧ answer.found = true ∧
    Device.Value.textOf answer.value = .ok text ∧ decode text = doc

/-- The text stands in an answer of the device, as a member of that name. -/
def Source.Gave (s : Source) (name text : String) : Prop :=
  ∃ path doc entry v, s.Reports path doc ∧ Within doc entry ∧ entry.get? name = some v ∧
    textOf v = text

variable {s : Source} {path : String}

theorem reports_of_query {area : Area} (h : (area.query path s).outcome = .ok (some doc)) :
    s.Reports path doc := by
  unfold Area.query at h
  rw [Survey.outcome_bind] at h
  obtain ⟨answered, hanswered, h⟩ := bind_eq_ok h
  have hanswer : s.answer path = answered := Except.ok.inj hanswered
  split at h
  · split at h
    · split at h
      · cases h
      · cases h
    · cases h
  · cases h
  · next answer =>
    split at h
    · next hfound =>
      rw [Survey.outcome_bind] at h
      obtain ⟨text, htext, h⟩ := bind_eq_ok h
      have htext : Device.Value.textOf answer.value = .ok text := mapError_eq_ok_iff.1 htext
      split at h
      · cases h
      · refine ⟨answer, text, hanswer, hfound, htext, ?_⟩
        cases hd : decode text with
        | null =>
          rw [hd] at h
          cases h
        | _ =>
          rw [hd] at h
          cases h
          rfl
    · cases h

/-- A generator that asks for one document finds what that document gives. -/
theorem gives_of_query {area : Area} {assertions : Json.Value → Survey (List Assertion)}
    {found : List Assertion} {P : Assertion → Prop}
    (h : ((do
      match ← area.query path with
      | none => pure []
      | some doc => assertions doc : Survey (List Assertion)) s).outcome = .ok found)
    (hP : ∀ doc, s.Reports path doc → (assertions doc s).outcome = .ok found → ∀ a ∈ found, P a) :
    ∀ a ∈ found, P a := by
  rw [Survey.outcome_bind] at h
  obtain ⟨reported, hreported, h⟩ := bind_eq_ok h
  cases reported with
  | none =>
    cases h
    exact List.forall_mem_nil _
  | some doc => exact hP doc (reports_of_query hreported) h

/-- The assertion is about a part of the state of the device, and the texts in its path stand in
answers of the device. -/
structure Source.Describes (s : Source) (leaf : Leaf) (a : Assertion) : Prop where
  path : a.path = leaf.path
  keys : ∀ kv ∈ leaf.keys, kv.2 ≠ "" → s.Gave kv.1 kv.2
  predicate : ∀ p, a.predicate = some p → p.WellFormed

theorem Source.describes_of_drawn {a : Assertion} (hd : s.Reports path doc) (h : Drawn doc a) :
    ∃ leaf, s.Describes leaf a := by
  obtain ⟨leaf, hpath, hkeys, hpredicate⟩ := h
  refine ⟨leaf, hpath, fun kv hkv hne => ?_, hpredicate⟩
  obtain ⟨entry, v, he, hv, htext⟩ := hkeys kv hkv hne
  exact ⟨path, doc, entry, v, hd, he, hv, htext⟩

theorem describes_of_checked {found : List Assertion} {x : Except Breakdown (List Assertion)}
    (hd : s.Reports path doc) (hx : Gives x (Drawn doc))
    (h : (Survey.checked x s).outcome = .ok found) :
    ∀ a ∈ found, ∃ leaf, s.Describes leaf a :=
  fun a ha => s.describes_of_drawn hd (hx found (mapError_eq_ok_iff.1 h) a ha)

theorem describes_statement (leaf : Leaf) (hk : leaf.keys = []) (label value : String) :
    ∀ a ∈ Host.statement label leaf.path value, ∃ leaf, s.Describes leaf a := by
  unfold Host.statement
  split
  · exact List.forall_mem_nil _
  · refine List.forall_mem_singleton.2 ⟨leaf, rfl, by simp [hk], fun p hp => ?_⟩
    cases hp
    exact ⟨rfl, nofun⟩

theorem Host.describes {found : List Assertion}
    (h : (Host.generator.survey s).outcome = .ok found) :
    ∀ a ∈ found, ∃ leaf, s.Describes leaf a := by
  unfold generator at h
  dsimp only at h
  rw [Survey.outcome_bind] at h
  obtain ⟨name, -, h⟩ := bind_eq_ok h
  rw [Survey.outcome_bind] at h
  obtain ⟨version, -, h⟩ := bind_eq_ok h
  cases h
  exact List.forall_mem_append.2 ⟨describes_statement .hostname rfl _ _,
    describes_statement .version rfl _ _⟩

theorem Vxlan.within_unwrapped (doc : Json.Value) : Within doc (unwrapped doc) := by
  unfold unwrapped
  cases he : entries doc "interface" with
  | nil => exact .whole
  | cons v vs => exact Within.whole.entries (he ▸ List.mem_cons_self)

theorem Vxlan.describes {found : List Assertion}
    (h : (Vxlan.generator.survey s).outcome = .ok found) :
    ∀ a ∈ found, ∃ leaf, s.Describes leaf a := by
  refine gives_of_query h fun doc hd hfound => ?_
  split at hfound
  · cases hm : member? (unwrapped doc) "arista-vxlan" with
    | none =>
      rw [hm] at hfound
      cases hfound
      exact List.forall_mem_nil _
    | some v =>
      rw [hm] at hfound
      cases v with
      | object members =>
        exact describes_of_checked hd (drawn ((within_unwrapped doc).member? hm)) hfound
      | _ =>
        cases hfound
        exact List.forall_mem_nil _
  · cases hfound

theorem describes_of_builtIn {g : Generator} (hg : g ∈ builtIn) {found : List Assertion}
    (h : (g.survey s).outcome = .ok found) : ∀ a ∈ found, ∃ leaf, s.Describes leaf a := by
  simp only [builtIn, List.mem_cons, List.not_mem_nil, or_false] at hg
  rcases hg with rfl | rfl | rfl | rfl | rfl | rfl
  · exact gives_of_query h fun doc hd hfound => describes_of_checked hd Bgp.drawn hfound
  · exact gives_of_query h fun doc hd hfound => describes_of_checked hd Interfaces.drawn hfound
  · exact gives_of_query h fun doc hd hfound => describes_of_checked hd Lldp.drawn hfound
  · exact gives_of_query h fun doc hd hfound => describes_of_checked hd Ospf.drawn hfound
  · exact Host.describes h
  · exact Vxlan.describes h

theorem mem_builtIn {name : String} {g : Generator}
    (h : Table.get? Catalogue.standard name = some g) : g ∈ builtIn := by
  obtain ⟨g', hg', heq⟩ := List.mem_map.1 (Table.mem_of_get?_ofList h)
  cases heq
  exact hg'

/-- Every assertion of a baseline is about a part of the state of the device. -/
theorem describes_of_survey {names : List String} {found : List Assertion}
    (h : (survey .standard names s).outcome = .ok found) :
    ∀ a ∈ found, ∃ leaf, s.Describes leaf a := by
  induction names generalizing found with
  | nil =>
    cases h
    exact List.forall_mem_nil _
  | cons name names ih =>
    unfold survey at h
    cases hg : Table.get? Catalogue.standard name with
    | none =>
      rw [hg] at h
      cases h
    | some g =>
      rw [hg] at h
      dsimp only at h
      rw [Survey.outcome_bind] at h
      obtain ⟨first, hfirst, h⟩ := bind_eq_ok h
      rw [Survey.outcome_bind] at h
      obtain ⟨rest, hrest, h⟩ := bind_eq_ok h
      cases h
      exact List.forall_mem_append.2 ⟨describes_of_builtIn (mem_builtIn hg) hfirst, ih hrest⟩

end StateCheck.Baseline
