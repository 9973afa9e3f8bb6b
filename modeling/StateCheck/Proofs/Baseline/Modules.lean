import Mathlib.Data.List.Permutation
import StateCheck.Proofs.Baseline.Listing

/-!
Names with a module in front: documents that differ only by the modules of lists and containers
give the same baseline.
-/

namespace StateCheck.Baseline

variable {s s' : Source} {doc doc' e e' v v' : Json.Value} {name path : String}

/-! ### Names -/

theorem localName_of_not_mem (h : ':' ∉ name.toList) : localName name = name := by
  have hall : ∀ c ∈ name.toList.reverse, (c != ':') = true := by
    intro c hc
    have hmem := List.mem_reverse.1 hc
    simpa using fun heq : c = ':' => h (heq ▸ hmem)
  rw [localName, Text.afterLast, List.takeWhile_eq_self_iff.2 hall, List.reverse_reverse,
    String.ofList_toList]

/-- A module in front of a name does not count. -/
theorem localName_prefixed (module : String) :
    localName (module ++ ":" ++ name) = localName name := by
  have hkeep (cs ds : List Char) :
      (cs ++ ':' :: ds).takeWhile (· != ':') = cs.takeWhile (· != ':') := by
    induction cs with
    | nil => rfl
    | cons c cs ih => simp only [List.cons_append, List.takeWhile_cons, ih]
  unfold localName Text.afterLast
  simp [hkeep]

theorem isNamed_iff {key : String} (hname : localName name = name) :
    isNamed name key = true ↔ localName key = name := by
  unfold isNamed
  simp only [Bool.or_eq_true, beq_iff_eq, or_iff_right_iff_imp]
  exact fun heq => heq ▸ hname

/-- No object in the document has two members with the same name but for the module. -/
def Unambiguous (doc : Json.Value) : Prop :=
  ∀ members, Within doc (.object members) → (members.map fun m => localName m.1).Nodup

mutual

/-- The same, by looking at all objects. -/
def isUnambiguous : Json.Value → Bool
  | .array items => areUnambiguous items
  | .object members =>
    decide (members.map fun m => localName m.1).Nodup && membersUnambiguous members
  | _ => true

def areUnambiguous : List Json.Value → Bool
  | [] => true
  | v :: vs => isUnambiguous v && areUnambiguous vs

def membersUnambiguous : List (String × Json.Value) → Bool
  | [] => true
  | (_, v) :: ms => isUnambiguous v && membersUnambiguous ms

end

theorem isUnambiguous_of_mem {items : List Json.Value} (h : areUnambiguous items = true)
    (hm : v ∈ items) : isUnambiguous v = true := by
  induction items with
  | nil => cases hm
  | cons v' vs ih =>
    simp only [areUnambiguous, Bool.and_eq_true] at h
    rcases List.mem_cons.1 hm with rfl | hm
    · exact h.1
    · exact ih h.2 hm

theorem isUnambiguous_of_member {members : List (String × Json.Value)}
    (h : membersUnambiguous members = true) (hm : (name, v) ∈ members) :
    isUnambiguous v = true := by
  induction members with
  | nil => cases hm
  | cons m ms ih =>
    simp only [membersUnambiguous, Bool.and_eq_true] at h
    rcases List.mem_cons.1 hm with rfl | hm
    · exact h.1
    · exact ih h.2 hm

theorem unambiguous_of_isUnambiguous (h : isUnambiguous doc = true) : Unambiguous doc := by
  have hwithin (v : Json.Value) (hv : Within doc v) : isUnambiguous v = true := by
    induction hv with
    | whole => exact h
    | member _ hm ih =>
      rw [isUnambiguous, Bool.and_eq_true] at ih
      exact isUnambiguous_of_member ih.2 hm
    | item _ hm ih =>
      rw [isUnambiguous] at ih
      exact isUnambiguous_of_mem ih hm
  intro members hmembers
  have hobject := hwithin _ hmembers
  rw [isUnambiguous, Bool.and_eq_true] at hobject
  exact of_decide_eq_true hobject.1

/-! ### Documents that are alike -/

/-- When two documents may be taken for one another. -/
structure Likeness where
  Holds : Json.Value → Json.Value → Prop
  refl : ∀ v, Holds v v
  isObject_eq : ∀ v v', Holds v v' → isObject v = isObject v'

namespace Likeness

def same : Likeness where
  Holds := Eq
  refl _ := rfl
  isObject_eq _ _ h := congrArg isObject h

/-- The items of two lists are alike, or the values are the same. -/
inductive Items (item : Likeness) : Json.Value → Json.Value → Prop
  | same (v : Json.Value) : Items item v v
  | list {items items' : List Json.Value} (h : List.Forall₂ item.Holds items items') :
    Items item (.array items) (.array items')

def each (item : Likeness) : Likeness where
  Holds := Items item
  refl := .same
  isObject_eq _ _ h := by cases h <;> rfl

/-- How the values of a member have to be alike: they are the same if nothing is said. -/
def under (below : List (String × Likeness)) (name : String) : Likeness :=
  (below.lookup name).getD same

/-- Two members have the same name, but for the module if the name is a loose one. -/
structure MemberHolds (loose : List String) (below : List (String × Likeness))
    (m m' : String × Json.Value) : Prop where
  name : localName m.1 = localName m'.1
  key : localName m.1 ∉ loose → m.1 = m'.1
  value : (under below (localName m.1)).Holds m.2 m'.2

inductive Members (loose : List String) (below : List (String × Likeness)) :
    Json.Value → Json.Value → Prop
  | same (v : Json.Value) : Members loose below v v
  | object {members members' : List (String × Json.Value)}
    (h : List.Forall₂ (MemberHolds loose below) members members') :
    Members loose below (.object members) (.object members')

/-- Objects that are alike but for the modules of loose names. -/
def members (loose : List String) (below : List (String × Likeness)) : Likeness where
  Holds := Members loose below
  refl := .same
  isObject_eq _ _ h := by cases h <;> rfl

/-- An object with a list under a loose name. -/
def container (name : String) (item : Likeness) : Likeness :=
  members [name] [(name, each item)]

/-- An entry of a list, with its state under a loose name. -/
def entry : Likeness := members ["state"] []

variable {l item : Likeness} {loose : List String} {below : List (String × Likeness)}

theorem MemberHolds.refl (m : String × Json.Value) : MemberHolds loose below m m :=
  ⟨rfl, fun _ => rfl, (under below (localName m.1)).refl m.2⟩

/-- A module may be put in front of a loose name. -/
theorem MemberHolds.prefixed (module : String) (hname : localName name ∈ loose)
    (h : (under below (localName name)).Holds v v') :
    MemberHolds loose below (name, v) (module ++ ":" ++ name, v') :=
  ⟨(localName_prefixed module).symm, fun hfixed => absurd hname hfixed, h⟩

theorem forall₂_refl (l : Likeness) (vs : List Json.Value) : List.Forall₂ l.Holds vs vs := by
  rw [List.forall₂_same]
  exact fun v _ => l.refl v

theorem rel_refl (l : Likeness) (v : Option Json.Value) : Option.Rel l.Holds v v := by
  cases v with
  | none => exact .none
  | some v => exact .some (l.refl v)

theorem rel_same {v v' : Option Json.Value} (h : Option.Rel same.Holds v v') : v = v' := by
  cases h with
  | none => rfl
  | some h => exact congrArg some h

/-! ### What is read of documents that are alike -/

theorem objects_holds {items items' : List Json.Value} (h : List.Forall₂ l.Holds items items') :
    List.Forall₂ l.Holds (objects items) (objects items') :=
  List.rel_filter (fun v v' hv => iff_of_eq (congrArg (· = true) (l.isObject_eq v v' hv))) h

theorem listAmong_cons_of_isNamed {key : String} (ms : List (String × Json.Value))
    (h : isNamed name key = true) : listAmong name ((key, v) :: ms) = match v with
      | .array items => objects items
      | _ => listAmong name ms := by
  cases v with
  | array items => exact if_pos h
  | _ => rfl

theorem listAmong_cons_of_not_isNamed {key : String} (ms : List (String × Json.Value))
    (h : ¬isNamed name key = true) : listAmong name ((key, v) :: ms) = listAmong name ms := by
  cases v with
  | array items => exact if_neg h
  | _ => rfl

theorem listAmong_holds {ms ms' : List (String × Json.Value)} (hname : localName name = name)
    (hitem : under below name = each item)
    (h : List.Forall₂ (MemberHolds loose below) ms ms') :
    List.Forall₂ item.Holds (listAmong name ms) (listAmong name ms') := by
  induction h with
  | nil => exact .nil
  | @cons m m' ms ms' hm _ ih =>
    obtain ⟨k, v⟩ := m
    obtain ⟨k', v'⟩ := m'
    obtain ⟨hlocal, -, hvalue⟩ := hm
    have hnamed : isNamed name k = true ↔ isNamed name k' = true := by
      rw [isNamed_iff hname, isNamed_iff hname, hlocal]
    by_cases hk : isNamed name k = true
    · rw [listAmong_cons_of_isNamed ms hk, listAmong_cons_of_isNamed ms' (hnamed.1 hk)]
      rw [(isNamed_iff hname).1 hk, hitem] at hvalue
      cases hvalue with
      | list hitems => exact objects_holds hitems
      | same =>
        cases v with
        | array items => exact item.forall₂_refl _
        | _ => exact ih
    · rw [listAmong_cons_of_not_isNamed ms hk,
        listAmong_cons_of_not_isNamed ms' fun hk' => hk (hnamed.2 hk')]
      exact ih

theorem entries_holds (hname : localName name = name) (hitem : under below name = each item)
    (h : (members loose below).Holds v v') :
    List.Forall₂ item.Holds (entries v name) (entries v' name) := by
  cases h with
  | same => exact item.forall₂_refl _
  | object h => exact listAmong_holds hname hitem h

theorem lookup_holds {ms ms' : List (String × Json.Value)} (hname : localName name = name)
    (hfixed : name ∉ loose) (h : List.Forall₂ (MemberHolds loose below) ms ms') :
    Option.Rel (under below name).Holds (ms.lookup name) (ms'.lookup name) := by
  induction h with
  | nil => exact .none
  | @cons m m' ms ms' hm _ ih =>
    obtain ⟨k, v⟩ := m
    obtain ⟨k', v'⟩ := m'
    have hkey : name = k ↔ name = k' := by
      refine ⟨?_, ?_⟩
      · rintro rfl
        exact hm.key (by rwa [hname])
      · rintro rfl
        exact (hm.key (by rwa [hm.name, hname])).symm
    rw [List.lookup_cons, List.lookup_cons]
    by_cases hk : name = k
    · obtain rfl := hk
      obtain rfl := hkey.1 rfl
      have hvalue := hm.value
      rw [hname] at hvalue
      rw [beq_self_eq_true]
      exact .some hvalue
    · have hk' : ¬name = k' := fun heq => hk (hkey.2 heq)
      rw [beq_eq_false_iff_ne.2 hk, beq_eq_false_iff_ne.2 hk']
      exact ih

theorem get?_holds (hname : localName name = name) (hfixed : name ∉ loose)
    (h : (members loose below).Holds v v') :
    Option.Rel (under below name).Holds (v.get? name) (v'.get? name) := by
  cases h with
  | same => exact rel_refl _ _
  | object h => exact lookup_holds hname hfixed h

theorem member?_object (ms : List (String × Json.Value)) :
    member? (.object ms) name = (ms.lookup name).or (memberAmong? name ms) := rfl

theorem memberAmong?_cons (key : String) (v : Json.Value) (ms : List (String × Json.Value)) :
    memberAmong? name ((key, v) :: ms) =
      if localName key = name then some v else memberAmong? name ms := by
  unfold memberAmong?
  rw [List.find?_cons]
  by_cases h : localName key = name
  · rw [if_pos h, beq_iff_eq.2 h]
    rfl
  · rw [if_neg h, beq_eq_false_iff_ne.2 h]

/-- If names differ in more than the module, a member of exactly the name is the only one. -/
theorem lookup_or_memberAmong? {ms : List (String × Json.Value)} (hname : localName name = name)
    (h : (ms.map fun m => localName m.1).Nodup) :
    (ms.lookup name).or (memberAmong? name ms) = memberAmong? name ms := by
  induction ms with
  | nil => rfl
  | cons m ms ih =>
    obtain ⟨k, v⟩ := m
    rw [List.map_cons, List.nodup_cons] at h
    obtain ⟨hfirst, hrest⟩ := h
    rw [memberAmong?_cons, List.lookup_cons]
    by_cases hk : localName k = name
    · have hlookup : ms.lookup name = none := by
        refine List.lookup_eq_none_iff.2 fun m hm => bne_iff_ne.2 ?_
        rintro rfl
        exact hfirst (List.mem_map.2 ⟨m, hm, hname.trans hk.symm⟩)
      rw [if_pos hk, hlookup]
      cases name == k <;> rfl
    · have hne : name ≠ k := fun heq => hk (heq ▸ hname)
      rw [if_neg hk, beq_eq_false_iff_ne.2 hne]
      exact ih hrest

theorem memberAmong?_holds {ms ms' : List (String × Json.Value)}
    (h : List.Forall₂ (MemberHolds loose below) ms ms') :
    Option.Rel (under below name).Holds (memberAmong? name ms) (memberAmong? name ms') := by
  induction h with
  | nil => exact .none
  | @cons m m' ms ms' hm _ ih =>
    obtain ⟨k, v⟩ := m
    obtain ⟨k', v'⟩ := m'
    obtain ⟨hlocal, -, hvalue⟩ := hm
    dsimp only at hlocal hvalue
    rw [memberAmong?_cons, memberAmong?_cons, ← hlocal]
    split
    · next hk => exact .some (hk ▸ hvalue)
    · exact ih

theorem member?_holds (hdoc : Unambiguous doc) (he : Within doc v) (hname : localName name = name)
    (h : (members loose below).Holds v v') :
    Option.Rel (under below name).Holds (member? v name) (member? v' name) := by
  cases h with
  | same => exact rel_refl _ _
  | @object ms ms' h =>
    have hnodup := hdoc ms he
    have hlocal : (ms.map fun m => localName m.1) = ms'.map fun m => localName m.1 := by
      rw [← List.forall₂_eq_eq_eq, List.forall₂_map_left_iff, List.forall₂_map_right_iff]
      exact h.imp fun _ _ hm => hm.name
    rw [member?_object, member?_object, lookup_or_memberAmong? hname hnodup,
      lookup_or_memberAmong? hname (hlocal ▸ hnodup)]
    exact memberAmong?_holds h

theorem stateOf_eq (hdoc : Unambiguous doc) (he : Within doc e)
    (hstate : below.lookup "state" = none) (h : (members loose below).Holds e e') :
    stateOf e = stateOf e' := by
  have hname : localName "state" = "state" := localName_of_not_mem (by decide)
  have hmember := member?_holds hdoc he hname h
  rw [under, hstate] at hmember
  unfold stateOf setMember?
  rw [rel_same hmember]

theorem ask_eq (hname : ':' ∉ name.toList) (hfixed : name ∉ loose)
    (hsame : below.lookup name = none) (h : (members loose below).Holds e e') :
    ask e name = ask e' name := by
  have hget := get?_holds (localName_of_not_mem hname) hfixed h
  rw [under, hsame] at hget
  have hobject := (members loose below).isObject_eq e e' h
  cases hobj : isObject e with
  | true => rw [ask_of_isObject hobj, ask_of_isObject (hobject ▸ hobj), rel_same hget]
  | false => rw [ask_of_not_isObject hobj, ask_of_not_isObject (hobject ▸ hobj)]

theorem memberEntries_holds (outer inner : String) (hdoc : Unambiguous doc) (he : Within doc e)
    (houter : ':' ∉ outer.toList) (hinner : ':' ∉ inner.toList)
    (hbelow : under below outer = container inner item)
    (h : (members loose below).Holds e e') :
    List.Forall₂ item.Holds ((member? e outer).elim [] (entries · inner))
      ((member? e' outer).elim [] (entries · inner)) := by
  have hmember := member?_holds hdoc he (localName_of_not_mem houter) h
  rw [hbelow] at hmember
  have hitem : under [(inner, each item)] inner = each item := by simp [under]
  generalize member? e outer = x at hmember ⊢
  generalize member? e' outer = x' at hmember ⊢
  cases hmember with
  | none => exact .nil
  | some hx => exact entries_holds (localName_of_not_mem hinner) hitem hx

theorem gather_eq {β : Type} {f f' : Json.Value → Except Breakdown (List β)}
    {es es' : List Json.Value} (h : List.Forall₂ item.Holds es es')
    (hes : ∀ e ∈ es, Within doc e) (hf : ∀ e e', Within doc e → item.Holds e e' → f e = f' e') :
    gather f es = gather f' es' := by
  induction h with
  | nil => rfl
  | cons he _ ih =>
    obtain ⟨hfirst, hrest⟩ := List.forall_mem_cons.1 hes
    rw [gather, gather, hf _ _ hfirst he, ih hrest]

/-- What is gathered from the list in a container. -/
theorem gather_container {β : Type} {f : Json.Value → Except Breakdown (List β)}
    (hname : ':' ∉ name.toList) (he : Within doc e)
    (hf : ∀ v v', Within doc v → item.Holds v v' → f v = f v')
    (h : (container name item).Holds e e') :
    gather f (entries e name) = gather f (entries e' name) := by
  have hitem : under [(name, each item)] name = each item := by simp [under]
  have hentries := entries_holds (localName_of_not_mem hname) hitem h
  exact gather_eq hentries (fun _ hv => he.entries hv) hf

/-- What is gathered from the list in a container that is a member itself. -/
theorem gather_member {β : Type} {f : Json.Value → Except Breakdown (List β)}
    (outer inner : String) (hdoc : Unambiguous doc) (he : Within doc e)
    (houter : ':' ∉ outer.toList) (hinner : ':' ∉ inner.toList)
    (hbelow : under below outer = container inner item)
    (hf : ∀ v v', Within doc v → item.Holds v v' → f v = f v')
    (h : (members loose below).Holds e e') :
    gather f ((member? e outer).elim [] (entries · inner)) =
      gather f ((member? e' outer).elim [] (entries · inner)) :=
  gather_eq (memberEntries_holds outer inner hdoc he houter hinner hbelow h)
    (fun _ hv => he.memberEntries hv) hf

end Likeness

/-! ### Generators -/

open Likeness

namespace Bgp

def neighborLikeness : Likeness :=
  members ["state", "afi-safis"] [("afi-safis", container "afi-safi" entry)]

def likeness : Likeness := container "neighbor" neighborLikeness

theorem family_alike (hdoc : Unambiguous doc) (he : Within doc e) (h : entry.Holds e e') :
    family e = family e' := by
  have hstate : stateOf e = stateOf e' := stateOf_eq hdoc he rfl h
  have hname : ask e "afi-safi-name" = ask e' "afi-safi-name" :=
    ask_eq (by decide) (by decide) rfl h
  unfold family
  rw [hstate, hname]

theorem familyAssertion_alike (address start : String) (hdoc : Unambiguous doc)
    (he : Within doc e) (h : entry.Holds e e') :
    familyAssertion address start e = familyAssertion address start e' := by
  unfold familyAssertion
  rw [family_alike hdoc he h]

theorem neighborAssertions_alike (hdoc : Unambiguous doc) (he : Within doc e)
    (h : neighborLikeness.Holds e e') : neighborAssertions e = neighborAssertions e' := by
  have hstate : stateOf e = stateOf e' := stateOf_eq hdoc he rfl h
  have haddress : ask e "neighbor-address" = ask e' "neighbor-address" :=
    ask_eq (by decide) (by decide) rfl h
  have hfamilies (address start : String) := gather_member "afi-safis" "afi-safi" hdoc he
    (by decide) (by decide) rfl
    (fun _ _ hv hlike => familyAssertion_alike address start hdoc hv hlike) h
  unfold neighborAssertions textWithState
  simp only [hstate, haddress, hfamilies]

theorem assertions_alike (hdoc : Unambiguous doc) (h : likeness.Holds doc doc') :
    assertions doc = assertions doc' :=
  gather_container (by decide) .whole
    (fun _ _ hv hlike => neighborAssertions_alike hdoc hv hlike) h

end Bgp

namespace Interfaces

def likeness : Likeness := container "interface" entry

theorem interfaceAssertions_alike (hdoc : Unambiguous doc) (he : Within doc e)
    (h : entry.Holds e e') : interfaceAssertions e = interfaceAssertions e' := by
  have hstate : stateOf e = stateOf e' := stateOf_eq hdoc he rfl h
  have hname : ask e "name" = ask e' "name" := ask_eq (by decide) (by decide) rfl h
  unfold interfaceAssertions textWithState
  rw [hstate, hname]

theorem assertions_alike (hdoc : Unambiguous doc) (h : likeness.Holds doc doc') :
    assertions doc = assertions doc' :=
  gather_container (by decide) .whole
    (fun _ _ hv hlike => interfaceAssertions_alike hdoc hv hlike) h

end Interfaces

namespace Lldp

def interfaceLikeness : Likeness :=
  members ["neighbors"] [("neighbors", container "neighbor" entry)]

def likeness : Likeness := container "interface" interfaceLikeness

theorem firstSystem_alike {es es' : List Json.Value} (hdoc : Unambiguous doc)
    (hes : ∀ e ∈ es, Within doc e) (h : List.Forall₂ entry.Holds es es') :
    firstSystem es = firstSystem es' := by
  induction h with
  | nil => rfl
  | cons he _ ih =>
    obtain ⟨hfirst, hrest⟩ := List.forall_mem_cons.1 hes
    rw [firstSystem, firstSystem, stateOf_eq hdoc hfirst rfl he, ih hrest]

theorem assertionsAfter_alike {es es' : List Json.Value} (seen : List String)
    (hdoc : Unambiguous doc) (hes : ∀ e ∈ es, Within doc e)
    (h : List.Forall₂ interfaceLikeness.Holds es es') :
    assertionsAfter seen es = assertionsAfter seen es' := by
  induction h generalizing seen with
  | nil => rfl
  | cons he _ ih =>
    obtain ⟨hfirst, hrest⟩ := List.forall_mem_cons.1 hes
    have hname : ask _ "name" = ask _ "name" :=
      ask_eq (by decide) (by decide) rfl he
    have hsystem := firstSystem_alike hdoc (fun _ hv => hfirst.memberEntries hv)
      (memberEntries_holds "neighbors" "neighbor" hdoc hfirst (by decide)
        (by decide) rfl he)
    rw [assertionsAfter, assertionsAfter, hname, hsystem]
    simp only [ih _ hrest]

theorem assertions_alike (hdoc : Unambiguous doc) (h : likeness.Holds doc doc') :
    assertions doc = assertions doc' := by
  have hname : localName "interface" = "interface" := localName_of_not_mem (by decide)
  exact assertionsAfter_alike [] hdoc (fun _ hv => Within.whole.entries hv)
    (entries_holds hname rfl h)

end Lldp

namespace Ospf

def interfaceLikeness : Likeness :=
  members ["neighbors"] [("neighbors", container "neighbor" entry)]

def areaLikeness : Likeness :=
  members ["interfaces"] [("interfaces", container "interface" interfaceLikeness)]

def likeness : Likeness := container "area" areaLikeness

theorem neighborAssertions_alike (areaId interfaceId : String) (hdoc : Unambiguous doc)
    (he : Within doc e) (h : entry.Holds e e') :
    neighborAssertions areaId interfaceId e = neighborAssertions areaId interfaceId e' := by
  have hstate : stateOf e = stateOf e' := stateOf_eq hdoc he rfl h
  have hneighbor : ask e "neighbor-id" = ask e' "neighbor-id" :=
    ask_eq (by decide) (by decide) rfl h
  unfold neighborAssertions textWithState
  rw [hstate, hneighbor]

theorem interfaceAssertions_alike (areaId : String) (hdoc : Unambiguous doc) (he : Within doc e)
    (h : interfaceLikeness.Holds e e') :
    interfaceAssertions areaId e = interfaceAssertions areaId e' := by
  have hid : ask e "id" = ask e' "id" := ask_eq (by decide) (by decide) rfl h
  have hneighbors (interfaceId : String) := gather_member "neighbors" "neighbor" hdoc he
    (by decide) (by decide) rfl
    (fun _ _ hv hlike => neighborAssertions_alike areaId interfaceId hdoc hv hlike) h
  unfold interfaceAssertions
  simp only [hid, hneighbors]

theorem areaAssertions_alike (hdoc : Unambiguous doc) (he : Within doc e)
    (h : areaLikeness.Holds e e') : areaAssertions e = areaAssertions e' := by
  have hid : ask e "identifier" = ask e' "identifier" :=
    ask_eq (by decide) (by decide) rfl h
  have hinterfaces (areaId : String) := gather_member "interfaces" "interface" hdoc he
    (by decide) (by decide) rfl
    (fun _ _ hv hlike => interfaceAssertions_alike areaId hdoc hv hlike) h
  unfold areaAssertions
  simp only [hid, hinterfaces]

theorem assertions_alike (hdoc : Unambiguous doc) (h : likeness.Holds doc doc') :
    assertions doc = assertions doc' :=
  gather_container (by decide) .whole
    (fun _ _ hv hlike => areaAssertions_alike hdoc hv hlike) h

end Ospf

namespace Vxlan

/-- Below a tunnel only the names of its two lists are loose. -/
def tunnelLikeness : Likeness :=
  members [] [("vlan-to-vnis", container "vlan-to-vni" same),
    ("vrf-to-vnis", container "vrf-to-vni" same)]

def interfaceLikeness : Likeness := members ["arista-vxlan"] [("arista-vxlan", tunnelLikeness)]

def likeness : Likeness :=
  members ["interface", "arista-vxlan"]
    [("interface", each interfaceLikeness), ("arista-vxlan", tunnelLikeness)]

theorem mapEntries_alike (outer inner : String) (houter : ':' ∉ outer.toList)
    (hinner : ':' ∉ inner.toList)
    (hbelow : under [("vlan-to-vnis", container "vlan-to-vni" same),
      ("vrf-to-vnis", container "vrf-to-vni" same)] outer = container inner same)
    (h : tunnelLikeness.Holds v v') : mapEntries v outer inner = mapEntries v' outer inner := by
  have hget := get?_holds (localName_of_not_mem houter) List.not_mem_nil h
  have hitem : under [(inner, each same)] inner = each same := by simp [under]
  rw [hbelow] at hget
  unfold mapEntries
  generalize v.get? outer = x at hget ⊢
  generalize v'.get? outer = x' at hget ⊢
  cases hget with
  | none => rfl
  | some hx =>
    have hentries := entries_holds (localName_of_not_mem hinner) hitem hx
    exact List.forall₂_eq_eq_eq ▸ hentries

theorem tunnelAssertions_alike (h : tunnelLikeness.Holds v v') :
    tunnelAssertions v = tunnelAssertions v' := by
  have hname : localName "state" = "state" := localName_of_not_mem (by decide)
  have hget := get?_holds hname List.not_mem_nil h
  have hstate : plainState v = plainState v' := by
    unfold plainState
    rw [rel_same hget]
  have hvlans := mapEntries_alike "vlan-to-vnis" "vlan-to-vni" (by decide)
    (by decide) rfl h
  have hvrfs := mapEntries_alike "vrf-to-vnis" "vrf-to-vni" (by decide)
    (by decide) rfl h
  unfold tunnelAssertions
  rw [hstate, hvlans, hvrfs]

theorem isObject_unwrapped (h : isObject doc = true) : isObject (unwrapped doc) = true := by
  unfold unwrapped
  cases he : entries doc "interface" with
  | nil => exact h
  | cons v vs => exact isObject_of_mem_entries (he ▸ List.mem_cons_self)

theorem member?_unwrapped_alike (hdoc : Unambiguous doc) (h : likeness.Holds doc doc') :
    Option.Rel tunnelLikeness.Holds (member? (unwrapped doc) "arista-vxlan")
      (member? (unwrapped doc') "arista-vxlan") := by
  have hvxlan : localName "arista-vxlan" = "arista-vxlan" :=
    localName_of_not_mem (by decide)
  have hinterface : localName "interface" = "interface" := localName_of_not_mem (by decide)
  have hentries : List.Forall₂ interfaceLikeness.Holds (entries doc "interface")
    (entries doc' "interface") := entries_holds hinterface rfl h
  have hwithin := within_unwrapped doc
  unfold unwrapped at hwithin ⊢
  generalize entries doc "interface" = es at hentries hwithin ⊢
  generalize entries doc' "interface" = es' at hentries ⊢
  cases hentries with
  | nil => exact member?_holds hdoc .whole hvxlan h
  | cons he _ => exact member?_holds hdoc hwithin hvxlan he

end Vxlan

/-! ### Surveys -/

theorem Survey.outcome_bind_eq {α β : Type} {x : Survey α} {f : α → Survey β}
    (hx : (x s).outcome = (x s').outcome) (hf : ∀ a, (f a s).outcome = (f a s').outcome) :
    ((x >>= f) s).outcome = ((x >>= f) s').outcome := by
  rw [outcome_bind, outcome_bind, hx, funext hf]

theorem query_eq (area : Area) (haddress : s.address = s'.address)
    (h : s.answer path = s'.answer path) :
    (area.query path s).outcome = (area.query path s').outcome := by
  have hfetch : (Survey.fetch path s).outcome = (Survey.fetch path s').outcome :=
    congrArg Except.ok h
  unfold Area.query
  refine Survey.outcome_bind_eq hfetch fun answered => ?_
  split
  · split
    · split
      · rfl
      · exact Survey.outcome_bind_eq (congrArg Except.ok haddress) fun _ => rfl
    · rfl
  · rfl
  · split
    · refine Survey.outcome_bind_eq rfl fun text => ?_
      split
      · rfl
      · cases decode text <;> rfl
    · rfl

/-- Two devices answer the request for a path in the same way, or with documents that are alike. -/
inductive Source.Alike (path : String) (l : Likeness) (s s' : Source) : Prop
  | same (h : s.answer path = s'.answer path)
  | documents {doc doc' : Json.Value} (h : s.Reports path doc) (h' : s'.Reports path doc')
    (hobject : isObject doc = true) (hdoc : Unambiguous doc) (hlike : l.Holds doc doc')

/-- Where a survey of one document finds the same in documents that are alike, it does so on
devices that are alike. -/
theorem outcome_alike {area : Area} {l : Likeness} {f : Option Json.Value → Survey (List Assertion)}
    (h : Source.Alike path l s s') (haddress : s.address = s'.address)
    (hsame : ∀ reported, (f reported s).outcome = (f reported s').outcome)
    (hf : ∀ doc doc', isObject doc = true → Unambiguous doc → l.Holds doc doc' →
      (f (some doc) s).outcome = (f (some doc') s').outcome) :
    ((area.query path >>= f) s).outcome = ((area.query path >>= f) s').outcome := by
  cases h with
  | same h => exact Survey.outcome_bind_eq (query_eq area haddress h) hsame
  | @documents doc doc' h h' hobject hdoc hlike =>
    have hobject' : isObject doc' = true := l.isObject_eq doc doc' hlike ▸ hobject
    have hquery {s : Source} {doc : Json.Value} (h : s.Reports path doc)
        (hobject : isObject doc = true) : (area.query path s).outcome = .ok (some doc) := by
      obtain hquery | ⟨-, hnot⟩ := query_of_reports area h
      · exact hquery
      · rw [hobject] at hnot
        cases hnot
    rw [Survey.outcome_bind, Survey.outcome_bind, hquery h hobject, hquery h' hobject']
    exact hf doc doc' hobject hdoc hlike

/-- A generator that asks for one document, and which documents it takes for one another. -/
structure Reading where
  generator : Generator
  path : String
  likeness : Likeness

def readings : List Reading :=
  [⟨Bgp.generator, Bgp.neighborsPath, Bgp.likeness⟩,
    ⟨Interfaces.generator, Interfaces.path, Interfaces.likeness⟩,
    ⟨Lldp.generator, Lldp.path, Lldp.likeness⟩,
    ⟨Ospf.generator, Ospf.areasPath, Ospf.likeness⟩,
    ⟨Vxlan.generator, Vxlan.path, Vxlan.likeness⟩]

theorem checked_alike {area : Area} {l : Likeness}
    {assertions : Json.Value → Except Breakdown (List Assertion)} (h : Source.Alike path l s s')
    (haddress : s.address = s'.address)
    (hassertions : ∀ doc doc', Unambiguous doc → l.Holds doc doc' →
      assertions doc = assertions doc') :
    ((do
      match ← area.query path with
      | none => pure []
      | some doc => Survey.checked (assertions doc) : Survey (List Assertion)) s).outcome =
    ((do
      match ← area.query path with
      | none => pure []
      | some doc => Survey.checked (assertions doc) : Survey (List Assertion)) s').outcome := by
  refine outcome_alike h haddress (fun reported => ?_) fun doc doc' _ hdoc hlike => ?_
  · cases reported <;> rfl
  · dsimp only
    rw [hassertions doc doc' hdoc hlike]
    rfl

theorem Vxlan.survey_alike (h : Source.Alike Vxlan.path likeness s s')
    (haddress : s.address = s'.address) :
    (generator.survey s).outcome = (generator.survey s').outcome := by
  refine outcome_alike h haddress (fun reported => ?_) fun doc doc' hobject hdoc hlike => ?_
  · cases reported with
    | none => rfl
    | some doc =>
      dsimp only
      split
      · cases member? (unwrapped doc) "arista-vxlan" with
        | none => rfl
        | some v => cases v <;> rfl
      · unfold Survey.fail
        rw [haddress]
  · have hmember := member?_unwrapped_alike hdoc hlike
    have hobject' : isObject doc' = true := likeness.isObject_eq doc doc' hlike ▸ hobject
    dsimp only
    rw [if_pos (isObject_unwrapped hobject), if_pos (isObject_unwrapped hobject')]
    generalize member? (unwrapped doc) "arista-vxlan" = x at hmember ⊢
    generalize member? (unwrapped doc') "arista-vxlan" = x' at hmember ⊢
    cases hmember with
    | none => rfl
    | @some v v' hv =>
      have hkind := tunnelLikeness.isObject_eq v v' hv
      have htunnel := tunnelAssertions_alike hv
      cases v with
      | object ms =>
        cases v' with
        | object ms' => exact congrArg (Except.mapError Fault.breakdown) htunnel
        | _ => cases hkind
      | _ => cases v' <;> first | rfl | cases hkind

/-- On documents without ambiguous names, the modules in front of the names of lists and containers
do not change what a survey finds. -/
theorem survey_eq_of_alike {r : Reading} (hr : r ∈ readings)
    (h : Source.Alike r.path r.likeness s s') (haddress : s.address = s'.address) :
    (r.generator.survey s).outcome = (r.generator.survey s').outcome := by
  simp only [readings, List.mem_cons, List.not_mem_nil, or_false] at hr
  rcases hr with rfl | rfl | rfl | rfl | rfl
  · exact checked_alike h haddress fun _ _ => Bgp.assertions_alike
  · exact checked_alike h haddress fun _ _ => Interfaces.assertions_alike
  · exact checked_alike h haddress fun _ _ => Lldp.assertions_alike
  · exact checked_alike h haddress fun _ _ => Ospf.assertions_alike
  · exact Vxlan.survey_alike h haddress

/-- A report of one neighbor, with the names of lists and containers as they are given. -/
def peersText (named : String → String) : String :=
  "\x7b\"" ++ named "neighbor" ++ "\":[\x7b\"neighbor-address\":\"p\",\"" ++ named "state" ++
    "\":\x7b\"session-state\":\"UP\"\x7d\x7d]\x7d"

def peers (named : String → String) : Json.Value :=
  .object [(named "neighbor", .array [.object [("neighbor-address", .string "p"),
    (named "state", .object [("session-state", .string "UP")])]])]

def unprefixed (name : String) : String := name

def prefixed (name : String) : String := "m" ++ ":" ++ name

theorem decode_peersText : decode (peersText unprefixed) = peers unprefixed := by cbv

theorem decode_peersText_prefixed : decode (peersText prefixed) = peers prefixed := by cbv

theorem peers_alike : Bgp.likeness.Holds (peers unprefixed) (peers prefixed) := by
  have hneighbor : localName "neighbor" ∈ ["neighbor"] := by decide
  have hstate : localName "state" ∈ ["state", "afi-safis"] := by decide
  refine .object (.cons (.prefixed "m" hneighbor ?_) .nil)
  change (each Bgp.neighborLikeness).Holds _ _
  refine .list (.cons (.object (.cons (.refl _) (.cons (.prefixed "m" hstate ?_) .nil))) .nil)
  exact Likeness.refl _ _

/-- A device that puts a module in front of names gives the same baseline as one that does not. -/
theorem survey_eq_of_prefixed :
    Source.Alike Bgp.neighborsPath Bgp.likeness (.ofTexts [(Bgp.neighborsPath, peersText unprefixed)])
      (.ofTexts [(Bgp.neighborsPath, peersText prefixed)]) ∧
    (Bgp.generator.survey (.ofTexts [(Bgp.neighborsPath, peersText unprefixed)])).outcome =
      (Bgp.generator.survey (.ofTexts [(Bgp.neighborsPath, peersText prefixed)])).outcome := by
  have hshows (text : String) : (Source.ofTexts [(Bgp.neighborsPath, text)]).Shows
    Bgp.neighborsPath text := shows_ofTexts List.lookup_cons_self
  have hunambiguous : Unambiguous (peers unprefixed) := unambiguous_of_isUnambiguous (by decide)
  have halike : Source.Alike Bgp.neighborsPath Bgp.likeness
      (.ofTexts [(Bgp.neighborsPath, peersText unprefixed)])
      (.ofTexts [(Bgp.neighborsPath, peersText prefixed)]) :=
    .documents (shows_of_reports.2 ⟨_, hshows _, decode_peersText⟩)
      (shows_of_reports.2 ⟨_, hshows _, decode_peersText_prefixed⟩) rfl hunambiguous peers_alike
  exact ⟨halike, survey_eq_of_alike (r := ⟨Bgp.generator, Bgp.neighborsPath, Bgp.likeness⟩)
    List.mem_cons_self halike rfl⟩

end StateCheck.Baseline
