import StateCheck.Proofs.Baseline.Hazards
import StateCheck.Proofs.Baseline.Modules
import StateCheck.Proofs.Sorting

/-!
Networks that tunnels carry: they are asserted in ascending order, so that the order in which a
device lists them does not matter.
-/

namespace StateCheck.Baseline

variable {s s' : Source} {doc doc' e v v' vxlan vxlan' : Json.Value} {name : String}

/-! ### Lists in another order -/

namespace Likeness

/-- The items of a list may stand in another order. -/
inductive Reordered : Json.Value → Json.Value → Prop
  | same (v : Json.Value) : Reordered v v
  | list {items items' : List Json.Value} (h : items.Perm items') :
    Reordered (.array items) (.array items')

def reordered : Likeness where
  Holds := Reordered
  refl := .same
  isObject_eq _ _ h := by cases h <;> rfl

variable {below : List (String × Likeness)}

theorem listAmong_perm {ms ms' : List (String × Json.Value)} (hname : localName name = name)
    (hitem : under below name = reordered) (h : List.Forall₂ (MemberHolds [] below) ms ms') :
    (listAmong name ms).Perm (listAmong name ms') := by
  induction h with
  | nil => exact .nil
  | @cons m m' ms ms' hm _ ih =>
    obtain ⟨k, v⟩ := m
    obtain ⟨k', v'⟩ := m'
    obtain rfl : k = k' := hm.key List.not_mem_nil
    have hvalue := hm.value
    by_cases hk : isNamed name k = true
    · rw [listAmong_cons_of_isNamed ms hk, listAmong_cons_of_isNamed ms' hk]
      rw [(isNamed_iff hname).1 hk, hitem] at hvalue
      cases hvalue with
      | list hitems => exact hitems.filter isObject
      | same =>
        cases v with
        | array items => exact .refl _
        | _ => exact ih
    · rw [listAmong_cons_of_not_isNamed ms hk, listAmong_cons_of_not_isNamed ms' hk]
      exact ih

theorem entries_perm (hname : localName name = name) (hitem : under below name = reordered)
    (h : (members [] below).Holds v v') : (entries v name).Perm (entries v' name) := by
  cases h with
  | same => exact .refl _
  | object h => exact listAmong_perm hname hitem h

theorem rel_or {l : Likeness} {x x' y y' : Option Json.Value} (hx : Option.Rel l.Holds x x')
    (hy : Option.Rel l.Holds y y') : Option.Rel l.Holds (x.or y) (x'.or y') := by
  cases hx with
  | none => exact hy
  | some h => exact .some h

/-- Where names are not loose, members are alike even in documents with ambiguous names. -/
theorem member?_holds_of_fixed (hname : localName name = name)
    (h : (members [] below).Holds v v') :
    Option.Rel (under below name).Holds (member? v name) (member? v' name) := by
  cases h with
  | same => exact rel_refl _ _
  | object h =>
    rw [member?_object, member?_object]
    exact rel_or (lookup_holds hname List.not_mem_nil h) (memberAmong?_holds h)

theorem holds_single (hname : localName name = name) (h : (under below name).Holds v v') :
    (members [] below).Holds (.object [(name, v)]) (.object [(name, v')]) := by
  refine .object (.cons ⟨rfl, fun _ => rfl, ?_⟩ .nil)
  rw [hname]
  exact h

end Likeness

namespace Vxlan

open Likeness

/-- A tunnel whose networks are listed in another order. -/
def tunnelOrder : Likeness :=
  members [] [("vlan-to-vnis", members [] [("vlan-to-vni", reordered)]),
    ("vrf-to-vnis", members [] [("vrf-to-vni", reordered)])]

def interfaceOrder : Likeness := members [] [("arista-vxlan", tunnelOrder)]

/-- A document of an interface, or of a list of interfaces, in which that is so. -/
def documentOrder : Likeness :=
  members [] [("interface", each interfaceOrder), ("arista-vxlan", tunnelOrder)]

theorem mapEntries_perm (outer inner : String) (houter : ':' ∉ outer.toList)
    (hinner : ':' ∉ inner.toList)
    (hbelow : under [("vlan-to-vnis", members [] [("vlan-to-vni", reordered)]),
      ("vrf-to-vnis", members [] [("vrf-to-vni", reordered)])] outer =
        members [] [(inner, reordered)])
    (h : tunnelOrder.Holds v v') :
    (mapEntries v outer inner).Perm (mapEntries v' outer inner) := by
  have hget := get?_holds (localName_of_not_mem houter) List.not_mem_nil h
  have hitem : under [(inner, reordered)] inner = reordered := by simp [under]
  rw [hbelow] at hget
  unfold mapEntries
  generalize v.get? outer = x at hget ⊢
  generalize v'.get? outer = x' at hget ⊢
  cases hget with
  | none => exact .nil
  | some hx => exact entries_perm (localName_of_not_mem hinner) hitem hx

theorem plainState_eq (h : tunnelOrder.Holds v v') : plainState v = plainState v' := by
  have hname : localName "state" = "state" := localName_of_not_mem (by decide)
  unfold plainState
  rw [rel_same (get?_holds hname List.not_mem_nil h)]

theorem member?_unwrapped_order (h : documentOrder.Holds doc doc') :
    Option.Rel tunnelOrder.Holds (member? (unwrapped doc) "arista-vxlan")
      (member? (unwrapped doc') "arista-vxlan") := by
  have hvxlan : localName "arista-vxlan" = "arista-vxlan" := localName_of_not_mem (by decide)
  have hinterface : localName "interface" = "interface" := localName_of_not_mem (by decide)
  have hentries : List.Forall₂ interfaceOrder.Holds (entries doc "interface")
    (entries doc' "interface") := entries_holds hinterface rfl h
  unfold unwrapped
  generalize entries doc "interface" = es at hentries ⊢
  generalize entries doc' "interface" = es' at hentries ⊢
  cases hentries with
  | nil => exact member?_holds_of_fixed hvxlan h
  | cons he _ => exact member?_holds_of_fixed hvxlan he

/-! ### The networks of a tunnel -/

/-- The whole number for which a value stands, zero if it stands for none. -/
def numberIn (v : Option Json.Value) : Int := (numberOf v).toOption.getD 0

theorem numberOf_of_finite {v : Option Json.Value} (h : ¬IsInfinite v) :
    numberOf v = .ok (numberIn v) := by
  obtain ⟨i, hi⟩ := (exists_eq_ok_iff fun _ => numberOf_eq_error_iff).2 fun _ hb => h hb.2
  rw [numberIn, hi]
  rfl

def vniOf (e : Json.Value) : Int := numberIn ((plainState e).get? "vni")

def vlanOf (e : Json.Value) : Int × Int := (numberIn (e.get? "vlan"), vniOf e)

def vrfOf (e : Json.Value) : String × Int := (setText (e.get? "vrf"), vniOf e)

/-- The local networks with the numbers that they have in tunnels, as often as they are listed. -/
def vlans (vxlan : Json.Value) : List (Int × Int) :=
  ((vlanEntries vxlan).map vlanOf).filter fun p => 0 < p.1 ∧ 0 < p.2

/-- The same for routing tables. -/
def vrfs (vxlan : Json.Value) : List (String × Int) :=
  ((vrfEntries vxlan).map vrfOf).filter fun p => p.1 ≠ "" ∧ 0 < p.2

def sourceOf (vxlan : Json.Value) : String := setText ((plainState vxlan).get? "src-ip-intf")

/-- The state of an entry can be asked, and the number in it is not infinite. -/
def IsOrderly (e : Json.Value) : Prop :=
  isObject (plainState e) = true ∧ ¬IsInfinite ((plainState e).get? "vni")

/-- This holds for all entries in the lists of a tunnel. -/
structure Orderly (vxlan : Json.Value) : Prop where
  vlans : ∀ e ∈ vlanEntries vxlan, IsOrderly e ∧ ¬IsInfinite (e.get? "vlan")
  vrfs : ∀ e ∈ vrfEntries vxlan, IsOrderly e

theorem networkOf_eq (h : IsOrderly e) : networkOf e = .ok (vniOf e) := by
  unfold networkOf
  rw [ask_of_isObject h.1]
  exact numberOf_of_finite h.2

theorem gather_vlanPair (h : Orderly vxlan) :
    gather vlanPair (vlanEntries vxlan) = .ok (vlans vxlan) := by
  have hpair (e : Json.Value) (he : e ∈ vlanEntries vxlan) : vlanPair e =
      .ok (if decide (0 < (vlanOf e).1 ∧ 0 < (vlanOf e).2) then [vlanOf e] else []) := by
    obtain ⟨horderly, hvlan⟩ := h.vlans e he
    unfold vlanPair
    rw [ask_of_isObject (isObject_of_mem_mapEntries he), networkOf_eq horderly]
    change Except.bind (numberOf (e.get? "vlan")) _ = _
    rw [numberOf_of_finite hvlan]
    simp only [decide_eq_true_eq]
    rfl
  rw [gather_filter hpair, ← List.map_eq_flatMap, vlans, List.filter_map]
  rfl

theorem gather_vrfPair (h : Orderly vxlan) :
    gather vrfPair (vrfEntries vxlan) = .ok (vrfs vxlan) := by
  have hpair (e : Json.Value) (he : e ∈ vrfEntries vxlan) : vrfPair e =
      .ok (if decide ((vrfOf e).1 ≠ "" ∧ 0 < (vrfOf e).2) then [vrfOf e] else []) := by
    unfold vrfPair
    rw [ask_of_isObject (isObject_of_mem_mapEntries he), networkOf_eq (h.vrfs e he)]
    simp only [decide_eq_true_eq]
    rfl
  rw [gather_filter hpair, ← List.map_eq_flatMap, vrfs, List.filter_map]
  rfl

/-- The state of the tunnel itself decides whether anything is asserted at all. -/
theorem tunnelAssertions_eq (h : Orderly vxlan) : tunnelAssertions vxlan =
    if isObject (plainState vxlan) then
      .ok (sourceAssertion (sourceOf vxlan) ++ ((vlans vxlan).mergeSort vlanLe).map vlanAssertion ++
        ((vrfs vxlan).mergeSort vrfLe).map vrfAssertion)
    else .error .notMapping := by
  unfold tunnelAssertions
  cases hs : isObject (plainState vxlan) with
  | false =>
    rw [ask_of_not_isObject hs]
    rfl
  | true =>
    rw [ask_of_isObject hs]
    change Except.bind (gather vlanPair (vlanEntries vxlan)) _ = _
    rw [gather_vlanPair h]
    change Except.bind (gather vrfPair (vrfEntries vxlan)) _ = _
    rw [gather_vrfPair h]
    rfl

theorem vlanLe_iff (a b : Int × Int) : vlanLe a b = true ↔ toLex a ≤ toLex b := by
  simp [vlanLe, Prod.Lex.toLex_le_toLex]

theorem vrfLe_iff (a b : String × Int) : vrfLe a b = true ↔ toLex a ≤ toLex b := by
  simp [vrfLe, Prod.Lex.toLex_le_toLex]

theorem vlanEntries_perm (h : tunnelOrder.Holds v v') : (vlanEntries v).Perm (vlanEntries v') :=
  mapEntries_perm "vlan-to-vnis" "vlan-to-vni" (by decide) (by decide) rfl h

theorem vrfEntries_perm (h : tunnelOrder.Holds v v') : (vrfEntries v).Perm (vrfEntries v') :=
  mapEntries_perm "vrf-to-vnis" "vrf-to-vni" (by decide) (by decide) rfl h

theorem Orderly.of_order (h : Orderly v) (horder : tunnelOrder.Holds v v') : Orderly v' where
  vlans e he := h.vlans e ((vlanEntries_perm horder).mem_iff.2 he)
  vrfs e he := h.vrfs e ((vrfEntries_perm horder).mem_iff.2 he)

/-- The order of the lists is no matter. -/
theorem tunnelAssertions_of_order (h : Orderly v) (horder : tunnelOrder.Holds v v') :
    tunnelAssertions v' = tunnelAssertions v := by
  -- Each pair is read off its own entry, so only the order of the pairs differs before they are
  -- sorted.
  have hvlans : (vlans v).mergeSort vlanLe = (vlans v').mergeSort vlanLe :=
    sorted_eq_of_perm vlanLe_iff (((vlanEntries_perm horder).map vlanOf).filter _)
  have hvrfs : (vrfs v).mergeSort vrfLe = (vrfs v').mergeSort vrfLe :=
    sorted_eq_of_perm vrfLe_iff (((vrfEntries_perm horder).map vrfOf).filter _)
  have hstate := plainState_eq horder
  rw [tunnelAssertions_eq h, tunnelAssertions_eq (h.of_order horder), hvlans, hvrfs, sourceOf,
    sourceOf, hstate]

/-! ### Surveys -/

/-- The tunnel in a document, an empty one if there is none. -/
def tunnelIn (doc : Json.Value) : Json.Value :=
  ((member? (unwrapped doc) "arista-vxlan").filter isObject).getD (.object [])

theorem tunnelIn_order (h : documentOrder.Holds doc doc') :
    tunnelOrder.Holds (tunnelIn doc) (tunnelIn doc') := by
  have hmember := member?_unwrapped_order h
  unfold tunnelIn
  generalize member? (unwrapped doc) "arista-vxlan" = x at hmember ⊢
  generalize member? (unwrapped doc') "arista-vxlan" = x' at hmember ⊢
  cases hmember with
  | none => exact tunnelOrder.refl _
  | @some v v' hv =>
    cases hobject : isObject v with
    | true =>
      have hobject' : isObject v' = true := tunnelOrder.isObject_eq _ _ hv ▸ hobject
      rw [Option.filter_some_pos hobject, Option.filter_some_pos hobject']
      exact hv
    | false =>
      have hobject' : isObject v' = false := tunnelOrder.isObject_eq _ _ hv ▸ hobject
      rw [Option.filter_some_neg (by simp [hobject]), Option.filter_some_neg (by simp [hobject'])]
      exact tunnelOrder.refl _

theorem tunnelAssertions_empty : tunnelAssertions (.object []) = .ok [] := by
  have hvlans : vlans (.object []) = [] := rfl
  have hvrfs : vrfs (.object []) = [] := rfl
  rw [tunnelAssertions_eq ⟨fun _ he => absurd he List.not_mem_nil,
    fun _ he => absurd he List.not_mem_nil⟩, hvlans, hvrfs, List.mergeSort_nil, List.mergeSort_nil]
  rfl

/-- On a device that reports the interface, the assertions are those about its tunnel. -/
theorem survey_of_reports (h : s.Reports Vxlan.path doc) (hdoc : isObject doc = true) :
    (generator.survey s).outcome = (tunnelAssertions (tunnelIn doc)).mapError .breakdown := by
  have hquery : (area.query Vxlan.path s).outcome = .ok (some doc) := by
    obtain hquery | ⟨-, hnot⟩ := query_of_reports area h
    · exact hquery
    · cases hdoc.symm.trans hnot
  unfold generator tunnelIn
  rw [Survey.outcome_bind, hquery]
  dsimp only [Except.bind]
  rw [if_pos (isObject_unwrapped hdoc)]
  -- without a tunnel nothing is asserted, and an empty tunnel gives no assertions either
  cases member? (unwrapped doc) "arista-vxlan" with
  | none => exact congrArg (Except.mapError Fault.breakdown) tunnelAssertions_empty.symm
  | some v =>
    cases v with
    | object members => rfl
    | _ => exact congrArg (Except.mapError Fault.breakdown) tunnelAssertions_empty.symm

/-- Devices that report the interface with the networks of its tunnel in another order give the same
baseline, if the states of the listed entries can be asked and hold no infinite numbers. It asserts
the source of the tunnel if there is one, then the local networks and then the routing tables, each
kind in ascending order and as often as they are listed. Where the state of the tunnel itself cannot
be asked the survey breaks off. -/
theorem survey_of_order (h : s.Reports Vxlan.path doc) (h' : s'.Reports Vxlan.path doc')
    (horder : documentOrder.Holds doc doc') (hdoc : isObject doc = true)
    (horderly : Orderly (tunnelIn doc)) :
    (generator.survey s').outcome = (generator.survey s).outcome ∧
    (isObject (plainState (tunnelIn doc)) = true →
      ∃ (locals : List (Int × Int)) (tables : List (String × Int)),
        (generator.survey s).outcome = .ok (sourceAssertion (sourceOf (tunnelIn doc)) ++
          locals.map vlanAssertion ++ tables.map vrfAssertion) ∧
        (locals.Perm (vlans (tunnelIn doc)) ∧ locals.Pairwise fun a b => toLex a ≤ toLex b) ∧
        tables.Perm (vrfs (tunnelIn doc)) ∧ tables.Pairwise fun a b => toLex a ≤ toLex b) ∧
    (isObject (plainState (tunnelIn doc)) = false →
      (generator.survey s).outcome = .error (.breakdown .notMapping)) := by
  have hdoc' : isObject doc' = true := documentOrder.isObject_eq _ _ horder ▸ hdoc
  rw [survey_of_reports h hdoc, survey_of_reports h' hdoc',
    tunnelAssertions_of_order horderly (tunnelIn_order horder), tunnelAssertions_eq horderly]
  refine ⟨rfl, fun hstate => ?_, fun hstate => ?_⟩
  · rw [if_pos hstate]
    exact ⟨_, _, rfl, ⟨List.mergeSort_perm _ _, pairwise_sorted vlanLe_iff _⟩,
      List.mergeSort_perm _ _, pairwise_sorted vrfLe_iff _⟩
  · rw [if_neg (by simp [hstate])]
    rfl

def vlanEntry (vlan vni : Int) : Json.Value :=
  .object [("vlan", .int vlan), ("state", .object [("vni", .int vni)])]

def tunnel (listed : List Json.Value) : Json.Value :=
  .object [("vlan-to-vnis", .object [("vlan-to-vni", .array listed)])]

def report (tunnel : Json.Value) : Json.Value := .object [("arista-vxlan", tunnel)]

def ascendingText : String :=
  "\x7b\"arista-vxlan\":\x7b\"vlan-to-vnis\":\x7b\"vlan-to-vni\":[" ++
    "\x7b\"vlan\":1,\"state\":\x7b\"vni\":8\x7d\x7d," ++
    "\x7b\"vlan\":2,\"state\":\x7b\"vni\":7\x7d\x7d]\x7d\x7d\x7d"

def descendingText : String :=
  "\x7b\"arista-vxlan\":\x7b\"vlan-to-vnis\":\x7b\"vlan-to-vni\":[" ++
    "\x7b\"vlan\":2,\"state\":\x7b\"vni\":7\x7d\x7d," ++
    "\x7b\"vlan\":1,\"state\":\x7b\"vni\":8\x7d\x7d]\x7d\x7d\x7d"

theorem decode_ascendingText :
    decode ascendingText = report (tunnel [vlanEntry 1 8, vlanEntry 2 7]) := by cbv

theorem decode_descendingText :
    decode descendingText = report (tunnel [vlanEntry 2 7, vlanEntry 1 8]) := by cbv

theorem report_order {es es' : List Json.Value} (h : es.Perm es') :
    documentOrder.Holds (report (tunnel es)) (report (tunnel es')) := by
  have hlists : tunnelOrder.Holds (tunnel es) (tunnel es') :=
    holds_single (localName_of_not_mem (by decide))
      (holds_single (localName_of_not_mem (by decide)) (.list h))
  exact holds_single (localName_of_not_mem (by decide)) hlists

theorem orderly_of_listed (pairs : List (Int × Int))
    (hvlans : vlanEntries vxlan = pairs.map fun p => vlanEntry p.1 p.2)
    (hvrfs : vrfEntries vxlan = []) : Orderly vxlan := by
  refine ⟨fun e he => ?_, fun e he => ?_⟩
  · rw [hvlans] at he
    obtain ⟨⟨vlan, vni⟩, -, rfl⟩ := List.mem_map.1 he
    refine ⟨⟨rfl, ?_⟩, ?_⟩
    · rintro ⟨negative, ⟨⟩⟩
    · rintro ⟨negative, ⟨⟩⟩
  · rw [hvrfs] at he
    cases he

/-- A device that answers the request for the interface with this text. -/
def answering (text : String) : Source := .ofTexts [(Vxlan.path, text)]

theorem reports_answering (text : String) :
    (answering text).Reports Vxlan.path (decode text) :=
  shows_of_reports.2 ⟨_, shows_ofTexts List.lookup_cons_self, rfl⟩

theorem survey_of_order_descending :
    documentOrder.Holds (decode ascendingText) (decode descendingText) ∧
    isObject (decode ascendingText) = true ∧ Orderly (tunnelIn (decode ascendingText)) ∧
    (generator.survey (answering descendingText)).outcome =
      (generator.survey (answering ascendingText)).outcome ∧
    ∃ (locals : List (Int × Int)) (found : List Assertion), locals.Perm [(1, 8), (2, 7)] ∧
      (generator.survey (answering ascendingText)).outcome =
        .ok (locals.map vlanAssertion ++ found) := by
  have horder : documentOrder.Holds (decode ascendingText) (decode descendingText) := by
    rw [decode_ascendingText, decode_descendingText]
    exact report_order (List.Perm.swap _ _ _)
  have hdoc : isObject (decode ascendingText) = true := by
    rw [decode_ascendingText]
    rfl
  have horderly : Orderly (tunnelIn (decode ascendingText)) := by
    rw [decode_ascendingText]
    exact orderly_of_listed [(1, 8), (2, 7)] rfl rfl
  obtain ⟨heq, hlists, -⟩ := survey_of_order (reports_answering _) (reports_answering _) horder
    hdoc horderly
  rw [decode_ascendingText] at hlists
  obtain ⟨locals, tables, houtcome, ⟨hperm, -⟩, -⟩ := hlists rfl
  exact ⟨horder, hdoc, horderly, heq, locals, tables.map vrfAssertion, hperm, houtcome⟩

/-- The state of the tunnel is a text. -/
def labeledText : String :=
  "\x7b\"arista-vxlan\":\x7b\"state\":\"x\",\"vlan-to-vnis\":\x7b\"vlan-to-vni\":[" ++
    "\x7b\"vlan\":1,\"state\":\x7b\"vni\":8\x7d\x7d]\x7d\x7d\x7d"

theorem decode_labeledText : decode labeledText = report (.object [("state", .string "x"),
    ("vlan-to-vnis", .object [("vlan-to-vni", .array [vlanEntry 1 8])])]) := by cbv

/-- Such a device lists a network and gives no baseline. -/
theorem survey_of_labeled :
    isObject (decode labeledText) = true ∧ Orderly (tunnelIn (decode labeledText)) ∧
    vlans (tunnelIn (decode labeledText)) = [(1, 8)] ∧
    (generator.survey (answering labeledText)).outcome = .error (.breakdown .notMapping) := by
  have hdoc : isObject (decode labeledText) = true := by
    rw [decode_labeledText]
    rfl
  have horderly : Orderly (tunnelIn (decode labeledText)) := by
    rw [decode_labeledText]
    exact orderly_of_listed [(1, 8)] rfl rfl
  refine ⟨hdoc, horderly, ?_, ?_⟩
  · rw [decode_labeledText]
    rfl
  · rw [survey_of_reports (reports_answering _) hdoc, tunnelAssertions_eq horderly,
      decode_labeledText]
    rfl

end Vxlan

end StateCheck.Baseline
