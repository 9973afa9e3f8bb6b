import StateCheck.Proofs.Baseline.Identity
import StateCheck.Proofs.Baseline.Statuses

/-!
Documents on which a survey breaks off: a member is asked of what is no object, or an infinite
number is taken for a whole one.
-/

namespace StateCheck.Baseline

variable {s : Source} {doc e state : Json.Value} {b : Breakdown} {name path : String}

/-! ### Lists that are gathered -/

section

variable {α β : Type} {f : α → Except Breakdown (List β)} {as : List α}

theorem error_eq_iff_and {c : Breakdown} {P : Prop} (h : P) :
    (.error c : Except Breakdown α) = .error b ↔ b = c ∧ P :=
  ⟨fun hb => ⟨(Except.error.inj hb).symm, h⟩, fun hb => congrArg Except.error hb.1.symm⟩

theorem gather_cons_eq_error_iff {a : α} : gather f (a :: as) = .error b ↔
    f a = .error b ∨ (∃ bs, f a = .ok bs) ∧ gather f as = .error b :=
  bind_eq_error_iff_of_iff fun _ => bind_eq_error_iff_of_ne nofun

/-- The first to break off ends it. -/
theorem gather_eq_error_iff {Trips : α → Breakdown → Prop}
    (h : ∀ a ∈ as, ∀ b, f a = .error b ↔ Trips a b) :
    gather f as = .error b ↔ EndsAt (fun a => ∀ b, ¬Trips a b) Trips as b := by
  induction as with
  | nil => exact ⟨nofun, nofun⟩
  | cons a as ih =>
    obtain ⟨ha, has⟩ := List.forall_mem_cons.1 h
    rw [gather_cons_eq_error_iff, endsAt_cons_iff, ha, exists_eq_ok_iff ha, ih has]

/-- If all break off in the same way, any of them does it. -/
theorem gather_eq_error_iff_exists {c : Breakdown} {Trips : α → Prop}
    (h : ∀ a ∈ as, ∀ b, f a = .error b ↔ b = c ∧ Trips a) :
    gather f as = .error b ↔ b = c ∧ ∃ a ∈ as, Trips a := by
  induction as with
  | nil => exact ⟨nofun, fun h => nomatch h.2⟩
  | cons a as ih =>
    obtain ⟨ha, has⟩ := List.forall_mem_cons.1 h
    rw [gather_cons_eq_error_iff, ha, ih has, List.exists_mem_cons_iff]
    cases hf : f a with
    | ok bs =>
      have hnot : ¬Trips a := fun hta => nomatch hf.symm.trans ((ha c).2 ⟨rfl, hta⟩)
      simp [hnot]
    | error b' =>
      obtain ⟨rfl, hta⟩ := (ha b').1 hf
      simp [hta]

end

theorem textWithState_of_not_isObject (he : isObject e = true) (hs : isObject state = false) :
    textWithState e state name =
      if setText (e.get? name) = "" then .error .notMapping else .ok (setText (e.get? name)) := by
  unfold textWithState
  rw [ask_of_isObject he, ask_of_not_isObject hs]
  change (if setText (e.get? name) = "" then _ else _) = _
  split <;> rfl

/-! ### Documents -/

namespace Interfaces

/-- An entry whose name does not tell that it is passed over, and whose state is no object. -/
def EntryTrips (e : Json.Value) : Prop :=
  isObject (stateOf e) = false ∧ startsWithAny skipped (setText (e.get? "name")) = false

theorem interfaceAssertions_eq_error_iff (he : isObject e = true) :
    interfaceAssertions e = .error b ↔ b = .notMapping ∧ EntryTrips e := by
  unfold EntryTrips
  cases hs : isObject (stateOf e) with
  | true =>
    rw [interfaceAssertions_eq he hs]
    exact iff_of_false nofun fun h => nomatch h.2.1
  | false =>
    have hempty : startsWithAny skipped "" = false := by decide
    unfold interfaceAssertions
    dsimp only
    rw [textWithState_of_not_isObject he hs, ask_of_not_isObject hs]
    by_cases hname : setText (e.get? "name") = ""
    · rw [if_pos hname, hname, hempty]
      exact error_eq_iff_and ⟨rfl, rfl⟩
    · rw [if_neg hname]
      change (if _ then _ else _) = _ ↔ _
      cases hskipped : startsWithAny skipped (setText (e.get? "name")) with
      | true =>
        rw [if_pos (.inr rfl)]
        exact iff_of_false nofun fun h => nomatch h.2.2
      | false =>
        rw [if_neg (by simp [hname])]
        exact error_eq_iff_and ⟨rfl, rfl⟩

def Trips (doc : Json.Value) (b : Breakdown) : Prop :=
  b = .notMapping ∧ ∃ e ∈ entries doc "interface", EntryTrips e

theorem assertions_eq_error_iff : assertions doc = .error b ↔ Trips doc b :=
  gather_eq_error_iff_exists fun _ he _ =>
    interfaceAssertions_eq_error_iff (isObject_of_mem_entries he)

end Interfaces

namespace Bgp

/-- A neighbor whose state is no object, or with an address and a family whose state is none. -/
def EntryTrips (e : Json.Value) : Prop :=
  isObject (stateOf e) = false ∨
    listing.label e ≠ "" ∧ ∃ f ∈ familiesIn e, isObject (stateOf f) = false

theorem family_of_not_isObject (he : isObject e = true) (hs : isObject (stateOf e) = false) :
    family e = .error .notMapping := by
  unfold family
  dsimp only
  rw [ask_of_isObject he, ask_of_not_isObject hs]
  rfl

theorem familyAssertion_eq_error_iff {address start : String} (he : isObject e = true) :
    familyAssertion address start e = .error b ↔
      b = .notMapping ∧ isObject (stateOf e) = false := by
  cases hs : isObject (stateOf e) with
  | true =>
    obtain ⟨-, hnot⟩ | ⟨as, has⟩ := familyAssertion_cases address start he
    · cases hs.symm.trans hnot
    · rw [has]
      exact iff_of_false nofun fun h => nomatch h.2
  | false =>
    unfold familyAssertion
    rw [family_of_not_isObject he hs]
    exact error_eq_iff_and rfl

theorem familyAssertions_eq_error_iff :
    familyAssertions e = .error b ↔
      b = .notMapping ∧ ∃ f ∈ familiesIn e, isObject (stateOf f) = false :=
  gather_eq_error_iff_exists fun _ hf _ =>
    familyAssertion_eq_error_iff (isObject_of_mem_familiesIn hf)

theorem neighborAssertions_eq_error_iff (he : isObject e = true) :
    neighborAssertions e = .error b ↔ b = .notMapping ∧ EntryTrips e := by
  unfold EntryTrips
  cases hs : isObject (stateOf e) with
  | true =>
    rw [neighborAssertions_eq he hs]
    by_cases hlisted : listing.isListed e = true
    · have hlabel : listing.label e ≠ "" := isListed_iff.1 hlisted
      rw [if_pos hlisted]
      have hmap : (familyAssertions e).map (listing.assertion e :: ·) = .error b ↔
          familyAssertions e = .error b := by
        cases familyAssertions e <;> simp [Except.map]
      rw [hmap, familyAssertions_eq_error_iff]
      simp [hlabel]
    · have hlabel : listing.label e = "" := not_not.1 (mt isListed_iff.2 hlisted)
      rw [if_neg hlisted]
      simp [hlabel]
  | false =>
    unfold neighborAssertions askText
    dsimp only
    rw [textWithState_of_not_isObject he hs, ask_of_not_isObject hs]
    by_cases haddress : setText (e.get? "neighbor-address") = ""
    · rw [if_pos haddress]
      exact error_eq_iff_and (.inl rfl)
    · rw [if_neg haddress]
      change (if setText (e.get? "neighbor-address") = "" then _ else _) = _ ↔ _
      rw [if_neg haddress]
      exact error_eq_iff_and (.inl rfl)

def Trips (doc : Json.Value) (b : Breakdown) : Prop :=
  b = .notMapping ∧ ∃ e ∈ entries doc "neighbor", EntryTrips e

theorem assertions_eq_error_iff : assertions doc = .error b ↔ Trips doc b :=
  gather_eq_error_iff_exists fun _ he _ =>
    neighborAssertions_eq_error_iff (isObject_of_mem_entries he)

end Bgp

/-- The entries of a list in a container. -/
def inside (outer inner : String) (e : Json.Value) : List Json.Value :=
  (member? e outer).elim [] (entries · inner)

theorem isObject_of_mem_inside {outer inner : String} {v : Json.Value}
    (h : v ∈ inside outer inner e) : isObject v = true := by
  unfold inside at h
  cases hm : member? e outer with
  | none => simp [hm] at h
  | some d =>
    rw [hm] at h
    exact isObject_of_mem_entries h

namespace Ospf

theorem neighborAssertions_eq_error_iff {areaId interfaceId : String} (he : isObject e = true) :
    neighborAssertions areaId interfaceId e = .error b ↔
      b = .notMapping ∧ isObject (stateOf e) = false := by
  unfold neighborAssertions textWithState
  dsimp only
  rw [ask_of_isObject he]
  cases hs : isObject (stateOf e) with
  | true =>
    rw [ask_of_isObject hs, ask_of_isObject hs]
    refine iff_of_false (fun h => ?_) fun h => nomatch h.2
    change (if setText ((stateOf e).get? "adjacency-state") = "" then _ else _) = _ at h
    split at h
    · cases h
    · change Except.bind (if setText ((stateOf e).get? "neighbor-id") = "" then _ else _) _ = _
        at h
      split at h <;> cases h
  | false =>
    rw [ask_of_not_isObject hs]
    exact error_eq_iff_and rfl

/-- A neighbor whose state is no object, however far down. -/
def Trips (doc : Json.Value) (b : Breakdown) : Prop :=
  b = .notMapping ∧ ∃ area ∈ entries doc "area", ∃ i ∈ inside "interfaces" "interface" area,
    ∃ n ∈ inside "neighbors" "neighbor" i, isObject (stateOf n) = false

theorem interfaceAssertions_eq_error_iff {areaId : String} (he : isObject e = true) :
    interfaceAssertions areaId e = .error b ↔ b = .notMapping ∧
      ∃ n ∈ inside "neighbors" "neighbor" e, isObject (stateOf n) = false := by
  unfold interfaceAssertions
  rw [ask_of_isObject he]
  exact gather_eq_error_iff_exists fun _ hn _ =>
    neighborAssertions_eq_error_iff (isObject_of_mem_inside hn)

theorem areaAssertions_eq_error_iff (he : isObject e = true) :
    areaAssertions e = .error b ↔ b = .notMapping ∧ ∃ i ∈ inside "interfaces" "interface" e,
      ∃ n ∈ inside "neighbors" "neighbor" i, isObject (stateOf n) = false := by
  unfold areaAssertions
  rw [ask_of_isObject he]
  exact gather_eq_error_iff_exists fun _ hi _ =>
    interfaceAssertions_eq_error_iff (isObject_of_mem_inside hi)

theorem assertions_eq_error_iff : assertions doc = .error b ↔ Trips doc b :=
  gather_eq_error_iff_exists fun _ he _ => areaAssertions_eq_error_iff (isObject_of_mem_entries he)

end Ospf

namespace Lldp

def interfaceName (e : Json.Value) : String := setText (e.get? "name")

def systemName (n : Json.Value) : String := setText ((stateOf n).get? "system-name")

/-- The search for a system ends here: the neighbor has a name, or no object for a state. -/
def isDecisive (n : Json.Value) : Bool := !isObject (stateOf n) || decide (systemName n ≠ "")

def decisive? (e : Json.Value) : Option Json.Value :=
  (inside "neighbors" "neighbor" e).find? isDecisive

theorem firstSystem_eq (es : List Json.Value) : firstSystem es =
    match es.find? isDecisive with
    | none => .ok ""
    | some n => if isObject (stateOf n) then .ok (systemName n) else .error .notMapping := by
  induction es with
  | nil => rfl
  | cons n es ih =>
    rw [firstSystem, ih]
    cases hs : isObject (stateOf n) with
    | false =>
      have hdecisive : isDecisive n = true := by simp [isDecisive, hs]
      rw [ask_of_not_isObject hs, List.find?_cons_of_pos hdecisive]
      exact (if_neg (by simp [hs])).symm
    | true =>
      rw [ask_of_isObject hs]
      change (if systemName n = "" then _ else _) = _
      by_cases hname : systemName n = ""
      · have hsilent : ¬isDecisive n = true := by simp [isDecisive, hs, hname]
        rw [if_pos hname, List.find?_cons_of_neg hsilent]
      · have hdecisive : isDecisive n = true := by simp [isDecisive, hname]
        rw [if_neg hname, List.find?_cons_of_pos hdecisive]
        exact (if_pos hs).symm

/-- Interfaces of this name are not passed over. -/
def Admits (name : String) : Prop := name ≠ "" ∧ startsWithAny skipped name = false

instance (name : String) : Decidable (Admits name) := inferInstanceAs (Decidable (_ ∧ _))

/-- The search ends at a system with a name. Nothing more is asserted about the interface. -/
def Heard (e : Json.Value) : Prop := ∃ n, decisive? e = some n ∧ isObject (stateOf n) = true

def Stumbles (e : Json.Value) : Prop := ∃ n, decisive? e = some n ∧ isObject (stateOf n) = false

/-- An interface that is not passed over, at which the search for a system meets a neighbor whose
state is no object, while none before it with the same name was heard. -/
def TripsAfter (seen : List String) (es : List Json.Value) : Prop :=
  ∃ before e after, es = before ++ e :: after ∧ Admits (interfaceName e) ∧
    interfaceName e ∉ seen ∧ (∀ e' ∈ before, interfaceName e' = interfaceName e → ¬Heard e') ∧
    Stumbles e

variable {seen : List String} {es : List Json.Value}

theorem tripsAfter_cons_iff : TripsAfter seen (e :: es) ↔
    (Admits (interfaceName e) ∧ interfaceName e ∉ seen ∧ Stumbles e) ∨
      ¬Heard e ∧ TripsAfter seen es ∨ TripsAfter (interfaceName e :: seen) es := by
  constructor
  · rintro ⟨before, e', after, heq, hadmits, hseen, hbefore, hstumbles⟩
    rcases List.cons_eq_append_iff.1 heq with ⟨rfl, h⟩ | ⟨rest, rfl, rfl⟩
    · cases h
      exact .inl ⟨hadmits, hseen, hstumbles⟩
    · obtain ⟨hfirst, hrest⟩ := List.forall_mem_cons.1 hbefore
      by_cases hname : interfaceName e = interfaceName e'
      · exact .inr (.inl ⟨hfirst hname, rest, e', after, rfl, hadmits, hseen, hrest, hstumbles⟩)
      · refine .inr (.inr ⟨rest, e', after, rfl, hadmits, ?_, hrest, hstumbles⟩)
        exact List.not_mem_cons_of_ne_of_not_mem (Ne.symm hname) hseen
  · rintro (⟨hadmits, hseen, hstumbles⟩ |
      ⟨hheard, before, e', after, rfl, hadmits, hseen, hbefore, hstumbles⟩ |
      ⟨before, e', after, rfl, hadmits, hseen, hbefore, hstumbles⟩)
    · exact ⟨[], e, es, rfl, hadmits, hseen, List.forall_mem_nil _, hstumbles⟩
    · exact ⟨e :: before, e', after, rfl, hadmits, hseen,
        List.forall_mem_cons.2 ⟨fun _ => hheard, hbefore⟩, hstumbles⟩
    · have hname := List.ne_of_not_mem_cons hseen
      exact ⟨e :: before, e', after, rfl, hadmits, List.not_mem_of_not_mem_cons hseen,
        List.forall_mem_cons.2 ⟨fun heq => absurd heq.symm hname, hbefore⟩, hstumbles⟩

/-- It is no matter whether a name was seen that is passed over anyway. -/
theorem tripsAfter_seen_iff (h : ¬(Admits name ∧ name ∉ seen)) :
    TripsAfter (name :: seen) es ↔ TripsAfter seen es := by
  have hmem (e : Json.Value) (hadmits : Admits (interfaceName e)) :
      interfaceName e ∉ name :: seen ↔ interfaceName e ∉ seen := by
    refine ⟨List.not_mem_of_not_mem_cons, fun hnot => List.not_mem_cons_of_ne_of_not_mem ?_ hnot⟩
    rintro rfl
    exact h ⟨hadmits, hnot⟩
  refine exists_congr fun before => exists_congr fun e => exists_congr fun after =>
    and_congr_right fun _ => and_congr_right fun hadmits => ?_
  rw [hmem e hadmits]

theorem TripsAfter.of_cons (h : TripsAfter (name :: seen) es) : TripsAfter seen es := by
  obtain ⟨before, e, after, heq, hadmits, hseen, hbefore, hstumbles⟩ := h
  exact ⟨before, e, after, heq, hadmits, List.not_mem_of_not_mem_cons hseen, hbefore, hstumbles⟩

theorem not_stumbles_of_heard (h : Heard e) : ¬Stumbles e := by
  obtain ⟨n, hn, hs⟩ := h
  rintro ⟨n', hn', hs'⟩
  cases hn.symm.trans hn'
  cases hs.symm.trans hs'

/-- What is asserted about the first interface: nothing if it is passed over or no system is heard
behind it, and its name is seen from then on if one is. -/
theorem assertionsAfter_cons (he : isObject e = true) : assertionsAfter seen (e :: es) =
    if Admits (interfaceName e) ∧ interfaceName e ∉ seen then
      match decisive? e with
      | none => assertionsAfter seen es
      | some n =>
        if isObject (stateOf n) then do
          return neighborAssertion (interfaceName e) (systemName n) ::
            (← assertionsAfter (interfaceName e :: seen) es)
        else .error .notMapping
    else assertionsAfter seen es := by
  have hsystem : firstSystem ((member? e "neighbors").elim [] (entries · "neighbor")) =
      match decisive? e with
      | none => .ok ""
      | some n => if isObject (stateOf n) then .ok (systemName n) else .error .notMapping :=
    firstSystem_eq _
  rw [assertionsAfter, ask_of_isObject he, hsystem]
  change (if interfaceName e = "" ∨ startsWithAny skipped (interfaceName e) = true ∨
    interfaceName e ∈ seen then _ else _) = _
  have hpassed : (interfaceName e = "" ∨ startsWithAny skipped (interfaceName e) = true ∨
      interfaceName e ∈ seen) ↔ ¬(Admits (interfaceName e) ∧ interfaceName e ∉ seen) := by
    simp only [Admits, not_and_or, not_not, ne_eq, Bool.not_eq_false, or_assoc]
  simp only [hpassed, ite_not]
  congr 1
  cases hd : decisive? e with
  | none => rfl
  | some n =>
    dsimp only
    cases hs : isObject (stateOf n) with
    | false => rfl
    | true =>
      have hdecisive : isDecisive n = true := List.find?_some hd
      have hnamed : systemName n ≠ "" := by simpa [isDecisive, hs] using hdecisive
      exact if_neg hnamed

theorem assertionsAfter_eq_error_iff (hes : ∀ e ∈ es, isObject e = true) :
    assertionsAfter seen es = .error b ↔ b = .notMapping ∧ TripsAfter seen es := by
  induction es generalizing seen with
  | nil =>
    refine iff_of_false nofun ?_
    rintro ⟨-, before, e, after, heq, -⟩
    exact absurd heq (by simp)
  | cons e es ih =>
    obtain ⟨he, hrest⟩ := List.forall_mem_cons.1 hes
    rw [assertionsAfter_cons he, tripsAfter_cons_iff]
    by_cases hmet : Admits (interfaceName e) ∧ interfaceName e ∉ seen
    · rw [if_pos hmet]
      cases hd : decisive? e with
      | none =>
        have hheard : ¬Heard e := fun ⟨n, hn, _⟩ => nomatch hd.symm.trans hn
        have hstumbles : ¬Stumbles e := fun ⟨n, hn, _⟩ => nomatch hd.symm.trans hn
        refine (ih hrest).trans (and_congr_right fun _ => ?_)
        simp only [hheard, hstumbles, not_false_eq_true, and_false, true_and, false_or]
        exact ⟨Or.inl, fun h => h.elim id TripsAfter.of_cons⟩
      | some n =>
        dsimp only
        cases hs : isObject (stateOf n) with
        | false =>
          rw [if_neg (by decide)]
          exact error_eq_iff_and (Or.inl ⟨hmet.1, hmet.2, n, hd, hs⟩)
        | true =>
          have hheard : Heard e := ⟨n, hd, hs⟩
          rw [if_pos rfl]
          simp only [hheard, not_stumbles_of_heard hheard, not_true_eq_false, and_false, false_and,
            false_or]
          exact Iff.trans (bind_eq_error_iff_of_ne nofun) (ih hrest)
    · have hfirst : ¬(Admits (interfaceName e) ∧ interfaceName e ∉ seen ∧ Stumbles e) :=
        fun ⟨hadmits, hseen, _⟩ => hmet ⟨hadmits, hseen⟩
      rw [if_neg hmet, ih hrest, tripsAfter_seen_iff hmet]
      simp only [hfirst, false_or, and_imp, imp_self, implies_true, or_iff_right_of_imp]

/-- The document holds an interface at which the search for a system goes wrong. -/
def Trips (doc : Json.Value) (b : Breakdown) : Prop :=
  b = .notMapping ∧ TripsAfter [] (entries doc "interface")

theorem assertions_eq_error_iff : assertions doc = .error b ↔ Trips doc b :=
  assertionsAfter_eq_error_iff fun _ => isObject_of_mem_entries

end Lldp

namespace Vxlan

def IsInfinite (v : Option Json.Value) : Prop := ∃ negative, v = some (.float (.infinite negative))

theorem toInt_ne_overflow {p : Device.Payload} (h : ∀ negative, p ≠ .float (.infinite negative)) :
    p.toInt ≠ .error .overflow := by
  have hread {α : Type} (o : Option α) :
      Device.Payload.orUnreadable o ≠ .error .overflow := by cases o <;> nofun
  unfold Device.Payload.toInt
  split
  · nofun
  · nofun
  · next negative => exact absurd rfl (h negative)
  · exact hread _
  · split
    · exact hread _
    · nofun

theorem numberOf_eq_error_iff {v : Option Json.Value} :
    numberOf v = .error b ↔ b = .overflow ∧ IsInfinite v := by
  by_cases hv : IsInfinite v
  · obtain ⟨negative, rfl⟩ := hv
    exact error_eq_iff_and ⟨negative, rfl⟩
  · refine iff_of_false (fun h => ?_) fun h => hv h.2
    unfold numberOf at h
    split at h
    · cases h
    · next v =>
      have hfinite (negative : Bool) : Device.Payload.ofJson v ≠ .float (.infinite negative) := by
        intro hpayload
        refine hv ⟨negative, ?_⟩
        cases v <;> cases hpayload
        rfl
      split at h
      · next hoverflow => exact toInt_ne_overflow hfinite hoverflow
      · cases h
      · cases h

/-- The state of an entry is no object, or its network an infinite number. -/
inductive NetworkTrips (e : Json.Value) : Breakdown → Prop
  | state (h : isObject (plainState e) = false) : NetworkTrips e .notMapping
  | network (h : IsInfinite ((plainState e).get? "vni")) : NetworkTrips e .overflow

theorem networkOf_eq_error_iff : networkOf e = .error b ↔ NetworkTrips e b := by
  unfold networkOf
  cases hs : isObject (plainState e) with
  | false =>
    rw [ask_of_not_isObject hs]
    constructor
    · rintro h
      cases h
      exact .state hs
    · rintro (_ | ⟨negative, hnetwork⟩)
      · rfl
      · cases he : plainState e with
        | object members =>
          rw [he] at hs
          cases hs
        | _ =>
          rw [he] at hnetwork
          cases hnetwork
  | true =>
    rw [ask_of_isObject hs]
    refine (numberOf_eq_error_iff).trans ⟨?_, ?_⟩
    · rintro ⟨rfl, h⟩
      exact .network h
    · rintro (h | h)
      · cases hs.symm.trans h
      · exact ⟨rfl, h⟩

/-- An infinite number for the local network comes before everything else. -/
def VlanTrips (e : Json.Value) (b : Breakdown) : Prop :=
  b = .overflow ∧ IsInfinite (e.get? "vlan") ∨ ¬IsInfinite (e.get? "vlan") ∧ NetworkTrips e b

theorem vlanPair_eq_error_iff (he : isObject e = true) : vlanPair e = .error b ↔ VlanTrips e b := by
  have hok : (∃ vlan, numberOf (e.get? "vlan") = .ok vlan) ↔ ¬IsInfinite (e.get? "vlan") := by
    rw [exists_eq_ok_iff fun _ => numberOf_eq_error_iff]
    simp
  unfold vlanPair VlanTrips
  rw [ask_of_isObject he, ← hok, ← numberOf_eq_error_iff, ← networkOf_eq_error_iff]
  change Except.bind (numberOf (e.get? "vlan")) _ = _ ↔ _
  exact bind_eq_error_iff_of_iff fun _ => bind_eq_error_iff_of_ne nofun

theorem vrfPair_eq_error_iff (he : isObject e = true) :
    vrfPair e = .error b ↔ NetworkTrips e b := by
  unfold vrfPair
  rw [ask_of_isObject he, ← networkOf_eq_error_iff]
  change Except.bind (networkOf e) _ = _ ↔ _
  exact bind_eq_error_iff_of_ne nofun

def vlanEntries (vxlan : Json.Value) : List Json.Value :=
  mapEntries vxlan "vlan-to-vnis" "vlan-to-vni"

def vrfEntries (vxlan : Json.Value) : List Json.Value := mapEntries vxlan "vrf-to-vnis" "vrf-to-vni"

theorem isObject_of_mem_mapEntries {vxlan v : Json.Value} {outer inner : String}
    (h : v ∈ mapEntries vxlan outer inner) : isObject v = true := by
  unfold mapEntries at h
  cases hm : vxlan.get? outer with
  | none => simp [hm] at h
  | some list =>
    rw [hm] at h
    exact isObject_of_mem_entries h

/-- The state of a tunnel comes first, then its local networks, then its tables. -/
inductive TunnelTrips (vxlan : Json.Value) : Breakdown → Prop
  | state (h : isObject (plainState vxlan) = false) : TunnelTrips vxlan .notMapping
  | vlan {b : Breakdown} (hstate : isObject (plainState vxlan) = true)
    (h : EndsAt (fun e => ∀ b, ¬VlanTrips e b) VlanTrips (vlanEntries vxlan) b) :
    TunnelTrips vxlan b
  | vrf {b : Breakdown} (hstate : isObject (plainState vxlan) = true)
    (hvlans : ∀ e ∈ vlanEntries vxlan, ∀ b, ¬VlanTrips e b)
    (h : EndsAt (fun e => ∀ b, ¬NetworkTrips e b) NetworkTrips (vrfEntries vxlan) b) :
    TunnelTrips vxlan b

theorem tunnelAssertions_eq_error_iff {vxlan : Json.Value} :
    tunnelAssertions vxlan = .error b ↔ TunnelTrips vxlan b := by
  have hvlans (b : Breakdown) : gather vlanPair (vlanEntries vxlan) = .error b ↔ _ :=
    gather_eq_error_iff fun _ he _ => vlanPair_eq_error_iff (isObject_of_mem_mapEntries he)
  have hvrfs : gather vrfPair (vrfEntries vxlan) = .error b ↔ _ :=
    gather_eq_error_iff fun _ he _ => vrfPair_eq_error_iff (isObject_of_mem_mapEntries he)
  unfold tunnelAssertions
  cases hs : isObject (plainState vxlan) with
  | false =>
    rw [ask_of_not_isObject hs]
    constructor
    · intro h
      cases h
      exact .state hs
    · rintro (_ | ⟨hstate, -⟩ | ⟨hstate, -, -⟩)
      · rfl
      · cases hs.symm.trans hstate
      · cases hs.symm.trans hstate
  | true =>
    rw [ask_of_isObject hs]
    change Except.bind (gather vlanPair (vlanEntries vxlan)) _ = _ ↔ _
    have htables (vlans : List (Int × Int)) :
        ((gather vrfPair (vrfEntries vxlan)).bind fun vrfs => .ok
          (sourceAssertion (setText ((plainState vxlan).get? "src-ip-intf")) ++
            (vlans.mergeSort vlanLe).map vlanAssertion ++
            (vrfs.mergeSort vrfLe).map vrfAssertion)) = .error b ↔
          gather vrfPair (vrfEntries vxlan) = .error b := bind_eq_error_iff_of_ne nofun
    refine (bind_eq_error_iff_of_iff htables).trans ?_
    rw [hvlans, exists_eq_ok_iff hvlans, forall_not_endsAt_iff, hvrfs]
    constructor
    · rintro (h | ⟨hnone, h⟩)
      · exact .vlan hs h
      · exact .vrf hs hnone h
    · rintro (hstate | ⟨-, h⟩ | ⟨-, hnone, h⟩)
      · cases hs.symm.trans hstate
      · exact .inl h
      · exact .inr ⟨hnone, h⟩

/-- The document holds a tunnel that goes wrong. -/
def Trips (doc : Json.Value) (b : Breakdown) : Prop :=
  ∃ members, member? (unwrapped doc) "arista-vxlan" = some (.object members) ∧
    TunnelTrips (.object members) b

end Vxlan

/-! ### Surveys -/

/-- A survey breaks off exactly in these ways, and else finds assertions or fails as generators
do. -/
structure Settles (address : String) (outcome : Except Fault (List Assertion))
    (Trips : Breakdown → Prop) : Prop where
  breakdown : ∀ b, outcome = .error (.breakdown b) ↔ Trips b
  otherwise : (∀ b, ¬Trips b) → (∃ found, outcome = .ok found) ∨
    ∃ f cause, outcome = .error (.failure f cause) ∧ f.kind = .generator ∧
      f.device = some address

section

variable {address : String} {Trips : Breakdown → Prop}

theorem settles_ok (found : List Assertion) (h : ∀ b, ¬Trips b) :
    Settles address (.ok found) Trips :=
  ⟨fun b => iff_of_false nofun (h b), fun _ => .inl ⟨found, rfl⟩⟩

theorem settles_failure {f : Failure} {cause : Option Fault} (hkind : f.kind = .generator)
    (hdevice : f.device = some address) (h : ∀ b, ¬Trips b) :
    Settles address (.error (.failure f cause)) Trips :=
  ⟨fun b => iff_of_false nofun (h b), fun _ => .inr ⟨f, cause, rfl, hkind, hdevice⟩⟩

theorem settles_checked {x : Except Breakdown (List Assertion)}
    (h : ∀ b, x = .error b ↔ Trips b) : Settles address (x.mapError .breakdown) Trips := by
  refine ⟨fun b => ?_, fun hnone => ?_⟩
  · rw [← h, mapError_eq_error_iff]
    simp
  · obtain ⟨found, rfl⟩ := (exists_eq_ok_iff h).2 hnone
    exact .inl ⟨found, rfl⟩

theorem settles_breakdown {b : Breakdown} (h : ∀ b', Trips b' ↔ b' = b) :
    Settles address (.error (.breakdown b)) Trips :=
  settles_checked (x := .error b) fun b' => by rw [h, Except.error.injEq, eq_comm]

end

/-- Requests fail in no other way than requests do. -/
def Source.FailsToFetch (s : Source) : Prop :=
  ∀ path e, s.answer path = .error e → ∃ f cause, e = .failure f cause ∧ f.kind = .fetch

theorem Source.Garbles.eq {b' : Breakdown} (h : s.Garbles path b) (h' : s.Garbles path b') :
    b' = b := by
  obtain ⟨answer, hanswer, -, hgarbled⟩ := h
  obtain ⟨answer', hanswer', -, hgarbled'⟩ := h'
  cases hanswer.symm.trans hanswer'
  exact Except.error.inj (hgarbled'.symm.trans hgarbled)

theorem Source.Garbles.not_reports (h : s.Garbles path b) : ¬s.Reports path doc := by
  intro hdoc
  obtain ⟨text, hshows, -⟩ := shows_of_reports.1 hdoc
  exact hshows.not_garbles h

theorem Source.Reports.eq {doc' : Json.Value} (h : s.Reports path doc) (h' : s.Reports path doc') :
    doc = doc' := by
  obtain ⟨text, hshows, rfl⟩ := shows_of_reports.1 h
  obtain ⟨text', hshows', rfl⟩ := shows_of_reports.1 h'
  rw [hshows.eq hshows']

/-- The value at the path has no text, or the document goes wrong. -/
def TripsAt (path : String) (Trips : Json.Value → Breakdown → Prop) (s : Source) (b : Breakdown) :
    Prop :=
  s.Garbles path b ∨ ∃ doc, s.Reports path doc ∧ Trips doc b

theorem tripsAt_iff {Trips : Json.Value → Breakdown → Prop} (h : s.Reports path doc) :
    TripsAt path Trips s b ↔ Trips doc b := by
  constructor
  · rintro (hgarbles | ⟨doc', hdoc', htrips⟩)
    · exact absurd h hgarbles.not_reports
    · rwa [h.eq hdoc']
  · exact fun htrips => .inr ⟨doc, h, htrips⟩

theorem not_tripsAt {Trips : Json.Value → Breakdown → Prop}
    (h : ∀ answer, s.answer path = .ok answer → answer.found = false) :
    ¬TripsAt path Trips s b := by
  have hnot (answer : Device.Answer) (hanswer : s.answer path = .ok answer) :
      ¬answer.found = true := by simp [h answer hanswer]
  rintro (⟨answer, hanswer, hfound, -⟩ | ⟨doc, ⟨answer, text, hanswer, hfound, -⟩, -⟩)
  · exact hnot answer hanswer hfound
  · exact hnot answer hanswer hfound

section

variable (area : Area)

theorem query_of_garbles (h : s.Garbles path b) :
    (area.query path s).outcome = .error (.breakdown b) := by
  obtain ⟨answer, hanswer, hfound, hgarbled⟩ := h
  have hfetch : (Survey.fetch path s).outcome = .ok (.ok answer) := congrArg Except.ok hanswer
  have hchecked : (Survey.checked (Device.Value.textOf answer.value) s).outcome =
      .error (.breakdown b) := mapError_eq_error_iff.2 ⟨b, hgarbled, rfl⟩
  unfold Area.query
  rw [Survey.outcome_bind, hfetch]
  dsimp only [Except.bind]
  rw [if_pos hfound, Survey.outcome_bind, hchecked]
  rfl

/-- A survey of one document goes wrong where the document does. -/
theorem settles_of_query {f : Option Json.Value → Survey (List Assertion)}
    {Trips : Json.Value → Breakdown → Prop} (hs : s.FailsToFetch)
    (hnone : (f none s).outcome = .ok []) (hobject : ∀ doc b, Trips doc b → isObject doc = true)
    (hf : ∀ doc, Settles s.address (f (some doc) s).outcome (Trips doc)) :
    Settles s.address ((area.query path >>= f) s).outcome (TripsAt path Trips s) := by
  have hempty (h : (area.query path s).outcome = .ok none) :
      ((area.query path s).outcome.bind fun doc => (f doc s).outcome) = .ok [] := by
    rw [h]
    exact hnone
  rw [Survey.outcome_bind]
  cases hanswer : s.answer path with
  | error e =>
    obtain ⟨failure, cause, rfl, hkind⟩ := hs path e hanswer
    have hnot (b : Breakdown) : ¬TripsAt path Trips s b :=
      not_tripsAt fun answer hok => nomatch hanswer.symm.trans hok
    have hquery := query_of_failure area hanswer hkind
    split at hquery
    · rw [hempty hquery]
      exact settles_ok [] hnot
    · rw [hquery]
      exact settles_failure rfl rfl hnot
  | ok answer =>
    by_cases hfound : answer.found = true
    · cases htext : Device.Value.textOf answer.value with
      | error b =>
        have hgarbles : s.Garbles path b := ⟨answer, hanswer, hfound, htext⟩
        rw [query_of_garbles area hgarbles]
        refine settles_breakdown fun b' => ⟨?_, fun heq => .inl (heq ▸ hgarbles)⟩
        rintro (h | ⟨doc, hdoc, -⟩)
        · exact hgarbles.eq h
        · exact absurd hdoc hgarbles.not_reports
      | ok text =>
        have hreports : s.Reports path (decode text) := ⟨answer, text, hanswer, hfound, htext, rfl⟩
        have htrips : TripsAt path Trips s = Trips (decode text) :=
          funext fun b => propext (tripsAt_iff hreports)
        rw [htrips]
        obtain hquery | ⟨hquery, hnot⟩ := query_of_reports area hreports
        · rw [hquery]
          exact hf _
        · rw [hempty hquery]
          refine settles_ok [] fun b hb => ?_
          cases hnot.symm.trans (hobject _ b hb)
    · rw [hempty (query_of_not_found area hanswer hfound)]
      refine settles_ok [] fun b => not_tripsAt fun answer' hanswer' => ?_
      cases hanswer.symm.trans hanswer'
      exact Bool.not_eq_true _ ▸ hfound

end

/-- What is asked first of a document has to be there. -/
theorem isObject_of_mem (h : e ∈ entries doc name) : isObject doc = true := by
  cases doc with
  | object members => rfl
  | _ => cases h

theorem Bgp.survey_settles (hs : s.FailsToFetch) :
    Settles s.address (generator.survey s).outcome (TripsAt neighborsPath Trips s) := by
  refine settles_of_query area hs rfl ?_ fun _ => settles_checked fun _ => assertions_eq_error_iff
  rintro doc b ⟨-, e, he, -⟩
  exact isObject_of_mem he

theorem Interfaces.survey_settles (hs : s.FailsToFetch) :
    Settles s.address (generator.survey s).outcome (TripsAt Interfaces.path Trips s) := by
  refine settles_of_query area hs rfl ?_ fun _ => settles_checked fun _ => assertions_eq_error_iff
  rintro doc b ⟨-, e, he, -⟩
  exact isObject_of_mem he

theorem Lldp.survey_settles (hs : s.FailsToFetch) :
    Settles s.address (generator.survey s).outcome (TripsAt Lldp.path Trips s) := by
  refine settles_of_query area hs rfl ?_ fun _ => settles_checked fun _ => assertions_eq_error_iff
  rintro doc b ⟨-, before, e, after, heq, -⟩
  exact isObject_of_mem (heq ▸ List.mem_append_right _ List.mem_cons_self)

theorem Ospf.survey_settles (hs : s.FailsToFetch) :
    Settles s.address (generator.survey s).outcome (TripsAt areasPath Trips s) := by
  refine settles_of_query area hs rfl ?_ fun _ => settles_checked fun _ => assertions_eq_error_iff
  rintro doc b ⟨-, e, he, -⟩
  exact isObject_of_mem he

namespace Vxlan

theorem isObject_of_trips (h : Trips doc b) : isObject doc = true := by
  obtain ⟨members, hmember, -⟩ := h
  cases doc with
  | object members => rfl
  | _ => cases hmember

theorem survey_settles (hs : s.FailsToFetch) :
    Settles s.address (generator.survey s).outcome (TripsAt Vxlan.path Trips s) := by
  refine settles_of_query area hs rfl (fun _ _ => isObject_of_trips) fun doc => ?_
  have hnone (h : ∀ members, member? (unwrapped doc) "arista-vxlan" ≠ some (.object members))
      (b : Breakdown) : ¬Trips doc b := fun ⟨members, hmember, _⟩ => h members hmember
  dsimp only
  split
  · cases hm : member? (unwrapped doc) "arista-vxlan" with
    | none => exact settles_ok [] (hnone (by simp [hm]))
    | some v =>
      cases v with
      | object members =>
        refine settles_checked fun b => tunnelAssertions_eq_error_iff.trans ⟨?_, ?_⟩
        · exact fun h => ⟨members, hm, h⟩
        · rintro ⟨members', hmember, h⟩
          cases hm.symm.trans hmember
          exact h
      | _ => exact settles_ok [] (hnone (by simp [hm]))
  · next hobject =>
    refine settles_failure rfl rfl (hnone fun members hmember => hobject ?_)
    cases hu : unwrapped doc with
    | object members => rfl
    | _ =>
      rw [hu] at hmember
      cases hmember

end Vxlan

namespace Host

/-- A path that was asked for nothing, and the value at it has a text. -/
def Passes (s : Source) (path : String) : Prop := s.Tells path "" ∧ ∀ b, ¬s.Garbles path b

/-- The value at the first path that is not passed has no text, or that of the version. -/
def Trips (s : Source) (b : Breakdown) : Prop :=
  EndsAt (Passes s) s.Garbles namePaths b ∨
    (∀ b, ¬EndsAt (Passes s) s.Garbles namePaths b) ∧ s.Garbles versionPath b

theorem firstText_cases (hs : s.FailsToFetch) (paths : List String) :
    (∃ b, (firstText paths s).outcome = .error (.breakdown b) ∧
        ∀ b', EndsAt (Passes s) s.Garbles paths b' ↔ b' = b) ∨
      ∃ value, (firstText paths s).outcome = .ok value ∧
        ∀ b, ¬EndsAt (Passes s) s.Garbles paths b := by
  induction paths with
  | nil => exact .inr ⟨"", rfl, nofun⟩
  | cons path paths ih =>
    unfold firstText
    rw [Survey.outcome_bind]
    simp only [endsAt_cons_iff]
    obtain ⟨b, htext, hgarbles⟩ | ⟨value, htext, htells, hclear⟩ := queryText_cases (hs path)
    · rw [htext]
      refine .inl ⟨b, rfl, fun b' => ⟨?_, fun heq => .inl (heq ▸ hgarbles)⟩⟩
      rintro (h | ⟨⟨-, hclear⟩, -⟩)
      · exact hgarbles.eq h
      · exact absurd hgarbles (hclear b)
    · rw [htext]
      dsimp only [Except.bind]
      by_cases hempty : value = ""
      · subst hempty
        have hpasses : Passes s path := ⟨htells, hclear⟩
        rw [if_pos rfl]
        simpa only [hclear, hpasses, false_or, true_and] using ih
      · have hnot : ¬Passes s path := fun h => hempty (htells.eq h.1)
        rw [if_neg hempty]
        refine .inr ⟨value, rfl, fun b => ?_⟩
        simp [hclear, hnot]

theorem survey_settles (hs : s.FailsToFetch) :
    Settles s.address (generator.survey s).outcome (Trips s) := by
  unfold Trips generator
  dsimp only
  rw [Survey.outcome_bind]
  obtain ⟨b, hname, htrips⟩ | ⟨name, hname, hnot⟩ := firstText_cases hs namePaths
  · rw [hname]
    refine settles_breakdown fun b' => ?_
    simp [htrips]
  · rw [hname]
    dsimp only [Except.bind]
    rw [Survey.outcome_bind]
    obtain ⟨b, hversion, hgarbles⟩ | ⟨version, hversion, -, hclear⟩ :=
      queryText_cases (hs versionPath)
    · rw [hversion]
      refine settles_breakdown fun b' => ⟨?_, fun heq => .inr ⟨hnot, heq ▸ hgarbles⟩⟩
      rintro (h | ⟨-, h⟩)
      · exact absurd h (hnot b')
      · exact hgarbles.eq h
    · rw [hversion]
      refine settles_ok _ fun b => ?_
      simp [hnot, hclear]

end Host

/-- A generator, and the ways in which its survey of a device breaks off. -/
structure Hazard where
  generator : Generator
  Trips : Source → Breakdown → Prop

def hazards : List Hazard :=
  [⟨Bgp.generator, TripsAt Bgp.neighborsPath Bgp.Trips⟩,
    ⟨Interfaces.generator, TripsAt Interfaces.path Interfaces.Trips⟩,
    ⟨Lldp.generator, TripsAt Lldp.path Lldp.Trips⟩,
    ⟨Ospf.generator, TripsAt Ospf.areasPath Ospf.Trips⟩,
    ⟨Host.generator, Host.Trips⟩,
    ⟨Vxlan.generator, TripsAt Vxlan.path Vxlan.Trips⟩]

/-- On every device whose requests fail as requests do, each generator finds assertions or fails
with a message of its own, unless its survey breaks off in one of the ways told above. -/
theorem settles_of_builtIn (hs : s.FailsToFetch) :
    hazards.map Hazard.generator = builtIn ∧
      ∀ h ∈ hazards, Settles s.address (h.generator.survey s).outcome (h.Trips s) := by
  refine ⟨rfl, ?_⟩
  simp only [hazards, List.forall_mem_cons, List.not_mem_nil, false_imp_iff, implies_true, and_true]
  exact ⟨Bgp.survey_settles hs, Interfaces.survey_settles hs, Lldp.survey_settles hs,
    Ospf.survey_settles hs, Host.survey_settles hs, Vxlan.survey_settles hs⟩

theorem failsToFetch_ofTexts (texts : List (String × String)) :
    (Source.ofTexts texts).FailsToFetch := nofun

/-- On a device with one interface, whose state is an object, nothing breaks off. -/
theorem settles_of_linked : linked.FailsToFetch ∧
    Settles linked.address (Interfaces.generator.survey linked).outcome
      (TripsAt Interfaces.path Interfaces.Trips linked) ∧
    ∀ b, ¬TripsAt Interfaces.path Interfaces.Trips linked b := by
  have hs : linked.FailsToFetch := failsToFetch_ofTexts _
  obtain ⟨-, hsettles⟩ := settles_of_builtIn hs
  refine ⟨hs, hsettles ⟨Interfaces.generator, TripsAt Interfaces.path Interfaces.Trips⟩
    (List.mem_cons_of_mem _ List.mem_cons_self), fun b h => ?_⟩
  have hshows : linked.Shows Interfaces.path uplinkText := shows_ofTexts rfl
  have hreports := shows_of_reports.2 ⟨uplinkText, hshows, decode_uplinkText⟩
  obtain ⟨-, e, he, hstate, -⟩ := (tripsAt_iff hreports).1 h
  rw [List.mem_singleton.1 he] at hstate
  cases hstate

def flatText : String := "\x7b\"interface\":[\x7b\"name\":\"Et1\",\"state\":\"UP\"\x7d]\x7d"

/-- A device that reports the state of its interface as a text. -/
def flat : Source := .ofTexts [(Interfaces.path, flatText)]

theorem decode_flatText : decode flatText =
    .object [("interface", .array [.object [("name", .string "Et1"),
      ("state", .string "UP")]])] := by cbv

/-- The survey of the interfaces breaks off instead of telling that it cannot read the report. -/
theorem unsettled_state :
    (Interfaces.generator.survey flat).outcome = .error (.breakdown .notMapping) := by
  have hshows : flat.Shows Interfaces.path flatText := shows_ofTexts rfl
  have hreports := shows_of_reports.2 ⟨flatText, hshows, decode_flatText⟩
  refine ((Interfaces.survey_settles (failsToFetch_ofTexts _)).breakdown _).2 ?_
  exact (tripsAt_iff hreports).2 ⟨rfl, _, List.mem_cons_self, rfl, by decide +kernel⟩

end StateCheck.Baseline
