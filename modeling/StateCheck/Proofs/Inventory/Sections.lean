import StateCheck.Inventory.Reading
import StateCheck.Proofs.Inventory.Targets
import StateCheck.Proofs.Text.Lines

/-!
Files of sections: the groups that their headers name, and what is left of a file without its
sections of variables.
-/

namespace StateCheck

namespace Inventory

variable {groups groups' : Table (List String)} {section? section?' : Option (String × String)}
  {lines : List Line} {name m : String} {members : List String} {within : Bool}

/-! ### Headers -/

def Line.header? : Line → Option (String × String)
  | .header group kind => some (group, kind)
  | .nothing | .entry _ => none

/-- The groups and kinds of the sections of a text, in their order. -/
def headers (text : List Char) : List (String × String) :=
  ((Text.lines text).map lineOf).filterMap Line.header?

theorem lineOf_congr {l w : List Char} (h : Text.trim w = Text.trim l) : lineOf w = lineOf l := by
  unfold lineOf
  rw [h]

/-- The breaks that end lines count for nothing. -/
theorem map_lineOf_wholeLines (text : List Char) :
    (Text.wholeLines text).map lineOf = (Text.lines text).map lineOf := by
  have hforall := Text.forall₂_wholeLines text
  generalize Text.lines text = ls, Text.wholeLines text = ws at hforall
  induction hforall with
  | nil => rfl
  | cons h _ ih =>
    obtain ⟨breaks, rfl, hbreaks⟩ := h
    have hblank := fun c hc => Text.isBlank_of_isLineBreak (hbreaks c hc)
    rw [List.map_cons, List.map_cons, ih, lineOf_congr (Text.trim_append hblank _)]

/-! ### Names of groups -/

theorem eraseDups_concat (xs : List String) (x : String) :
    (xs ++ [x]).eraseDups = if x ∈ xs then xs.eraseDups else xs.eraseDups ++ [x] := by
  rw [List.eraseDups_append]
  by_cases h : x ∈ xs <;> simp [List.removeAll, List.eraseDups_cons, h]

theorem names_addMember {group : String} (h : group ∈ groups.names) (member : String) :
    (addMember groups group member).names = groups.names :=
  (Table.map_fst_putEntry ..).trans (if_pos h)

/-- The groups are those that headers name, in the order in which they are named first. -/
theorem names_readLines {xs : List String} (hnames : groups.names = xs.eraseDups)
    (hsection : ∀ s ∈ section?, s.1 ∈ groups.names) :
    (readLines groups section? lines).names =
      (xs ++ (lines.filterMap Line.header?).map Prod.fst).eraseDups := by
  induction lines generalizing groups section? xs with
  | nil => simpa [readLines] using hnames
  | cons l lines ih =>
    cases l with
    | nothing => exact ih hnames hsection
    | header group kind =>
      have hopened : ((groups.add? group []).getD groups).names = (xs ++ [group]).eraseDups := by
        simp only [Table.names_add?_getD, eraseDups_concat, hnames, List.mem_eraseDups]
      have hmem : group ∈ ((groups.add? group []).getD groups).names := by
        rw [hopened, List.mem_eraseDups]
        exact List.mem_append_right xs (List.mem_singleton_self group)
      rw [readLines, ih hopened (by simpa using hmem)]
      simp [Line.header?]
    | entry cs =>
      cases section? with
      | none => exact ih hnames hsection
      | some s =>
        obtain ⟨group, kind⟩ := s
        have hgroup : group ∈ groups.names := hsection _ rfl
        rw [readLines]
        split
        · next member hmember =>
          have hadded := names_addMember hgroup member
          exact ih (hadded.trans hnames) (by simpa [hadded] using hgroup)
        · exact ih hnames hsection

/-! ### Sections of variables -/

/-- Whether a line stands in a section of variables, or opens one. -/
def inVariables (within : Bool) (l : Line) : Bool :=
  match l.header? with
  | some (_, kind) => kind == "vars"
  | none => within

/-- The lines outside of sections of variables. -/
def outsideVariables : (within : Bool) → List (List Char) → List (List Char)
  | _, [] => []
  | within, l :: ls =>
    if inVariables within (lineOf l) then outsideVariables true ls
    else l :: outsideVariables false ls

/-- The text with every section of variables taken out: its header, and all lines up to the next
header. -/
def withoutVariables (text : List Char) : List Char :=
  (outsideVariables false (Text.wholeLines text)).flatten

/-- A header can stand behind any line that is ended. -/
theorem not_merge_of_header {v l : List Char} {h : String × String}
    (hwhole : Text.wholeLines l = [l]) (hl : (lineOf l).header? = some h) : ¬Text.Merge v l := by
  rintro ⟨-, hhead⟩
  obtain ⟨cs, rfl⟩ := List.head?_eq_some_iff.1 hhead
  rw [Text.wholeLines_single (by decide) (by simp)] at hwhole
  obtain rfl : cs = [] := (List.cons.inj (List.cons.inj hwhole).1).2.symm
  cases hl

theorem outsideVariables_subset (within : Bool) (ls : List (List Char)) :
    outsideVariables within ls ⊆ ls := by
  induction ls generalizing within with
  | nil => exact fun l hl => hl
  | cons l ls ih =>
    rw [outsideVariables]
    split
    · exact List.subset_cons_of_subset l (ih true)
    · exact List.cons_subset_cons l (ih false)

/-- A line stays apart from what is left behind it: the next line that is kept is the next line of
the text or a header. -/
theorem isChain_outsideVariables {ls : List (List Char)} (h : Text.Apart ls) (v : List Char) :
    (Text.Ended v → (v :: outsideVariables true ls).IsChain Text.Follows) ∧
      ((v :: ls).IsChain Text.Follows →
        (v :: outsideVariables false ls).IsChain Text.Follows) := by
  induction ls generalizing v with
  | nil => exact ⟨fun _ => List.isChain_singleton v, fun _ => List.isChain_singleton v⟩
  | cons l ls ih =>
    simp only [outsideVariables]
    constructor
    · intro hv
      split
      · exact (ih h.tail v).1 hv
      · next hout =>
        obtain ⟨header, hl⟩ : ∃ header, (lineOf l).header? = some header := by
          unfold inVariables at hout
          cases hl : (lineOf l).header? with
          | none => simp [hl] at hout
          | some header => exact ⟨header, rfl⟩
        have hwhole := h.whole l List.mem_cons_self
        exact List.isChain_cons_cons.2
          ⟨⟨hv, not_merge_of_header hwhole hl⟩, (ih h.tail l).2 h.chain⟩
    · intro hchain
      obtain ⟨hfollows, hrest⟩ := List.isChain_cons_cons.1 hchain
      split
      · exact (ih h.tail v).1 hfollows.1
      · exact List.isChain_cons_cons.2 ⟨hfollows, (ih h.tail l).2 hrest⟩

theorem apart_outsideVariables {ls : List (List Char)} (h : Text.Apart ls) :
    Text.Apart (outsideVariables false ls) := by
  refine ⟨fun l hl => h.whole l (outsideVariables_subset false ls hl), ?_⟩
  -- An empty line in front changes nothing.
  have hfront : (['\n'] :: ls).IsChain Text.Follows := by
    cases ls with
    | nil => exact List.isChain_singleton _
    | cons l ls =>
      refine List.isChain_cons_cons.2 ⟨⟨.single (by decide), fun hm => ?_⟩, h.chain⟩
      cases hm.1
  exact ((isChain_outsideVariables h ['\n']).2 hfront).tail

theorem wholeLines_withoutVariables (text : List Char) :
    Text.wholeLines (withoutVariables text) = outsideVariables false (Text.wholeLines text) :=
  (apart_outsideVariables (Text.apart_wholeLines text)).wholeLines_flatten

/-- A table with the groups of another and their members, and further groups without members. -/
def Widens (groups groups' : Table (List String)) : Prop :=
  ∀ name, groups.get? name = groups'.get? name ∨
    groups'.get? name = none ∧ groups.get? name = some []

theorem Widens.getD (h : Widens groups groups') (name : String) :
    (groups.get? name).getD [] = (groups'.get? name).getD [] := by
  rcases h name with h | ⟨h', h⟩
  · rw [h]
  · rw [h, h']
    rfl

theorem Widens.header (h : Widens groups groups') (group : String) :
    Widens ((groups.add? group []).getD groups) ((groups'.add? group []).getD groups') := by
  intro name
  rw [Table.get?_add?_getD, Table.get?_add?_getD, h.getD group]
  split
  · exact .inl rfl
  · exact h name

theorem Widens.variables (h : Widens groups groups') (group : String) :
    Widens ((groups.add? group []).getD groups) groups' := by
  intro name
  rw [Table.get?_add?_getD]
  split
  · next heq =>
    subst heq
    rw [h.getD group]
    cases groups'.get? group with
    | none => exact .inr ⟨rfl, rfl⟩
    | some ms => exact .inl rfl
  · exact h name

theorem Widens.addMember (h : Widens groups groups') (group member : String) :
    Widens (addMember groups group member) (addMember groups' group member) := by
  intro name
  rw [Inventory.addMember, Inventory.addMember, Table.get?_put, Table.get?_put, h.getD group]
  split
  · exact .inl rfl
  · exact h name

theorem widens_readLines {ls : List (List Char)} (h : Widens groups groups')
    (hsame : within = false → section? = section?')
    (hvars : within = true → ∃ group, section? = some (group, "vars")) :
    Widens (readLines groups section? (ls.map lineOf))
      (readLines groups' section?' ((outsideVariables within ls).map lineOf)) := by
  induction ls generalizing groups groups' section? section?' within with
  | nil => exact h
  | cons l ls ih =>
    simp only [List.map_cons, outsideVariables]
    cases hl : lineOf l with
    | nothing =>
      cases within with
      | true => exact ih h hsame hvars
      | false =>
        simp only [inVariables, Line.header?, Bool.false_eq_true, if_false, List.map_cons, hl]
        exact ih h hsame hvars
    | header group kind =>
      rw [readLines]
      by_cases hkind : kind = "vars"
      · subst hkind
        exact ih (h.variables group) nofun fun _ => ⟨group, rfl⟩
      · have hout : inVariables within (.header group kind) = false := by
          simpa [inVariables, Line.header?] using hkind
        rw [hout, if_neg Bool.false_ne_true, List.map_cons, hl]
        exact ih (h.header group) (fun _ => rfl) nofun
    | entry cs =>
      cases within with
      | true =>
        obtain ⟨group, rfl⟩ := hvars rfl
        exact ih h nofun fun _ => ⟨group, rfl⟩
      | false =>
        obtain rfl := hsame rfl
        simp only [inVariables, Line.header?, Bool.false_eq_true, if_false, List.map_cons, hl]
        cases section? with
        | none => exact ih h (fun _ => rfl) nofun
        | some s =>
          obtain ⟨group, kind⟩ := s
          simp only [readLines]
          split
          · exact ih (h.addMember group _) (fun _ => rfl) nofun
          · exact ih h (fun _ => rfl) nofun

/-! ### Headers of other kinds -/

/-- The headers of sections that are not of variables. -/
def memberHeaders (hs : List (String × String)) : List (String × String) :=
  hs.filter fun h => h.2 != "vars"

theorem filterMap_outsideVariables (within : Bool) (ls : List (List Char)) :
    ((outsideVariables within ls).map lineOf).filterMap Line.header? =
      memberHeaders ((ls.map lineOf).filterMap Line.header?) := by
  induction ls generalizing within with
  | nil => rfl
  | cons l ls ih =>
    rw [outsideVariables, List.map_cons, List.filterMap_cons]
    cases hl : (lineOf l).header? with
    | none =>
      rw [inVariables, hl]
      dsimp only
      split
      · exact ih true
      · rw [List.map_cons, List.filterMap_cons, hl]
        exact ih false
    | some h =>
      obtain ⟨group, kind⟩ := h
      rw [inVariables, hl]
      by_cases hkind : kind = "vars"
      · simpa [hkind, memberHeaders] using ih true
      · simpa [hkind, hl, memberHeaders] using ih false

theorem headers_eq (text : List Char) :
    headers text = ((Text.wholeLines text).map lineOf).filterMap Line.header? := by
  rw [headers, map_lineOf_wholeLines]

theorem headers_withoutVariables (text : List Char) :
    headers (withoutVariables text) = memberHeaders (headers text) := by
  rw [headers_eq, headers_eq, wholeLines_withoutVariables, filterMap_outsideVariables]

/-- Every section of variables stands behind another section of its group. -/
def Trailing (hs : List (String × String)) : Prop :=
  ∀ before group after, hs = before ++ (group, "vars") :: after →
    ∃ kind, (group, kind) ∈ memberHeaders before

/-- The groups that headers name, in the order in which they are named first. -/
def groupsOf (hs : List (String × String)) : List String := (hs.map Prod.fst).eraseDups

theorem mem_groupsOf {hs : List (String × String)} :
    name ∈ groupsOf hs ↔ ∃ kind, (name, kind) ∈ hs := by
  simp [groupsOf]

theorem groupsOf_concat (hs : List (String × String)) (group kind : String) :
    groupsOf (hs ++ [(group, kind)]) =
      if group ∈ groupsOf hs then groupsOf hs else groupsOf hs ++ [group] := by
  simp only [groupsOf, List.map_append, List.map_cons, List.map_nil, eraseDups_concat,
    List.mem_eraseDups]

theorem Trailing.groupsOf_eq {hs : List (String × String)} (h : Trailing hs) :
    groupsOf hs = groupsOf (memberHeaders hs) := by
  induction hs using List.reverseRecOn with
  | nil => rfl
  | append_singleton hs h' ih =>
    obtain ⟨group, kind⟩ := h'
    have hbefore : Trailing hs := fun before g after heq =>
      h before g (after ++ [(group, kind)]) (by simp [heq])
    have hnames := ih hbefore
    by_cases hkind : kind = "vars"
    · subst hkind
      have hmem : group ∈ groupsOf hs := by
        rw [hnames, mem_groupsOf]
        exact h hs group [] rfl
      rw [groupsOf_concat, if_pos hmem, hnames, memberHeaders, memberHeaders, List.filter_append]
      simp
    · have hfilter : memberHeaders (hs ++ [(group, kind)]) =
          memberHeaders hs ++ [(group, kind)] := by simp [memberHeaders, hkind]
      rw [hfilter, groupsOf_concat, groupsOf_concat, hnames]

/-! ### Groups of a text -/

/-- The groups of the sections of a text, with references to each other. -/
def sectionGroups (text : List Char) : Table (List String) :=
  readLines .empty none ((Text.lines text).map lineOf)

theorem names_sectionGroups (text : List Char) :
    (sectionGroups text).names = groupsOf (headers text) := by
  have hempty : (Table.empty : Table (List String)).names = [].eraseDups := rfl
  exact names_readLines hempty nofun

theorem widens_sectionGroups (text : List Char) :
    Widens (sectionGroups text) (sectionGroups (withoutVariables text)) := by
  rw [sectionGroups, sectionGroups, ← map_lineOf_wholeLines, ← map_lineOf_wholeLines,
    wholeLines_withoutVariables]
  exact widens_readLines (fun _ => .inl rfl) (fun _ => rfl) nofun

/-- The inventory of the sections of a text. -/
def ofSections (text : List Char) : Inventory :=
  ⟨(expandWithin passLimit (sectionGroups text)).1, ⟨.none, 0⟩, none⟩

theorem readSections_outcome (text : List Char) :
    (readSections text).outcome = .ok (ofSections text) := expandReferences_outcome _

theorem preserves_ofSections (text : List Char) :
    Preserves (sectionGroups text) (ofSections text).groups :=
  preserves_expandWithin passLimit (sectionGroups text)

theorem names_ofSections (text : List Char) :
    (ofSections text).groups.names = groupsOf (headers text) := by
  rw [(preserves_ofSections text).names, names_sectionGroups]

/-! ### What groups without members change -/

theorem Widens.get?_of_some (h : Widens groups groups')
    (hg : groups'.get? name = some members) : groups.get? name = some members := by
  rcases h name with heq | ⟨hnone, -⟩
  · rw [heq, hg]
  · rw [hg] at hnone
    cases hnone

theorem Widens.referred?_none (h : Widens groups groups') (hr : referred? groups m = none) :
    referred? groups' m = none := by
  rw [referred?_eq_none_iff] at hr ⊢
  intro b hb
  cases hg : groups'.get? b with
  | none => rfl
  | some ms =>
    have hsome := hr b hb
    rw [h.get?_of_some hg] at hsome
    cases hsome

theorem not_reaches_of_nil (hg : groups.get? name = some []) : ¬Reaches groups m name := by
  intro h
  cases h with
  | member hg' hm =>
    cases hg.symm.trans hg'
    cases hm
  | through hr =>
    obtain ⟨ms, hg', x, hx, -⟩ := hr
    cases hg.symm.trans hg'
    cases hx

theorem Widens.reaches_of (h : Widens groups groups') (hr : Reaches groups m name)
    (hname : (groups'.get? name).isSome = true) :
    Reaches groups' m name ∧ referred? groups m = none := by
  induction hr with
  | @member name ms hg hm hr =>
    obtain ⟨ms', hms'⟩ := Option.isSome_iff_exists.1 hname
    cases hg.symm.trans (h.get?_of_some hms')
    exact ⟨.member hms' hm (h.referred?_none hr), hr⟩
  | @through name b hr hreach ih =>
    obtain ⟨ms, hg, x, hx, hb, hsome⟩ := hr
    obtain ⟨ms', hms'⟩ := Option.isSome_iff_exists.1 hname
    cases hg.symm.trans (h.get?_of_some hms')
    cases hb' : groups'.get? b with
    | none =>
      rcases h b with heq | ⟨-, hnil⟩
      · rw [heq, hb'] at hsome
        cases hsome
      · exact absurd hreach (not_reaches_of_nil hnil)
    | some inner =>
      have hdefined : (groups'.get? b).isSome = true := by rw [hb']; rfl
      obtain ⟨hreach', hm⟩ := ih hdefined
      exact ⟨.through ⟨ms, hms', x, hx, hb, hdefined⟩ hreach', hm⟩

theorem Widens.reaches (h : Widens groups groups') (hr : Reaches groups' m name)
    (hm : referred? groups m = none) : Reaches groups m name := by
  induction hr with
  | member hg hmem _ => exact .member (h.get?_of_some hg) hmem hm
  | through hr _ ih =>
    obtain ⟨ms, hg, x, hx, hb, hsome⟩ := hr
    obtain ⟨inner, hinner⟩ := Option.isSome_iff_exists.1 hsome
    exact .through ⟨ms, h.get?_of_some hg, x, hx, hb, by rw [h.get?_of_some hinner]; rfl⟩ ih

/-- A group without members has none after the passes. -/
theorem get?_expandWithin_nil (hg : groups.get? name = some []) :
    (expandWithin passLimit groups).1.get? name = some [] := by
  obtain ⟨out, hout, hflat⟩ := exists_flat hg ((shallow_iff hg).2 (List.forall_mem_nil _))
  cases hflat
  exact hout

theorem get?_of_variables {text : List Char} (hi : name ∈ (ofSections text).groups.names)
    (hj : name ∉ (ofSections (withoutVariables text)).groups.names) :
    (ofSections text).groups.get? name = some [] := by
  rw [(preserves_ofSections text).names] at hi
  rw [(preserves_ofSections _).names] at hj
  obtain ⟨ms, hms⟩ := Option.isSome_iff_exists.1 (Table.isSome_get?.2 hi)
  have hnone : (sectionGroups (withoutVariables text)).get? name = none := by
    simpa using Table.isSome_get?.not.2 hj
  rcases widens_sectionGroups text name with heq | ⟨-, hnil⟩
  · rw [hms, hnone] at heq
    cases heq
  · exact get?_expandWithin_nil hnil

theorem reaches_ofSections {text : List Char}
    (hname : name ∈ (ofSections (withoutVariables text)).groups.names) (m : String) :
    Reaches (ofSections text).groups m name ↔
      Reaches (ofSections (withoutVariables text)).groups m name ∧
        referred? (ofSections text).groups m = none := by
  have hi := preserves_ofSections text
  have hj := preserves_ofSections (withoutVariables text)
  have hw := widens_sectionGroups text
  rw [hj.names] at hname
  rw [hi.reaches, hj.reaches, hi.referred?_eq_none_iff]
  exact ⟨fun h => hw.reaches_of h (Table.isSome_get?.2 hname), fun ⟨h, hm⟩ => hw.reaches h hm⟩

theorem ofSections_eq {text : List Char}
    (h : (ofSections text).groups.names = (ofSections (withoutVariables text)).groups.names) :
    ofSections text = ofSections (withoutVariables text) := by
  rw [(preserves_ofSections text).names, (preserves_ofSections _).names] at h
  have hgroups : sectionGroups text = sectionGroups (withoutVariables text) := by
    refine Table.ext_get? h fun name => ?_
    rcases widens_sectionGroups text name with heq | ⟨hnone, hnil⟩
    · exact heq
    · have hname : name ∈ (sectionGroups text).names := Table.isSome_get?.1 (by rw [hnil]; rfl)
      rw [h, ← Table.isSome_get?, hnone] at hname
      cases hname
  rw [ofSections, ofSections, hgroups]

theorem expandTarget_of_nil {i : Inventory} {t : Target} (ht : reference? t.host = some name)
    (hg : i.groups.get? name = some []) : (i.expandTarget t).outcome = .ok [] := by
  rw [expandTarget_outcome, standIns_of_some (referred?_eq_some_iff.2 ⟨name, ht, hg⟩)]
  rfl

theorem expandTarget_of_unknown {i : Inventory} {t : Target} (ht : reference? t.host = some name)
    (hg : name ∉ i.groups.names) : (i.expandTarget t).outcome = .ok [t] := by
  have hnone : referred? i.groups t.host = none := by
    rw [referred?_eq_none_iff]
    intro b hb
    obtain rfl := Option.some.inj (ht.symm.trans hb)
    simpa using Table.isSome_get?.not.2 hg
  rw [expandTarget_outcome, standIns_of_none hnone]

/-- A file of sections has the groups that it has without its sections of variables, in the same
order and with the same members, exactly if their headers name no further group and none too early;
so it is if each of them stands behind another section of its group, and then every assertion file
is expanded to the same. In any case the same can be reached from the groups that are left without
these sections, but for references to groups that nothing else names. Such a group has no members:
a target that names it is dropped, and would be kept without the sections of variables. -/
theorem readSections_withoutVariables (text : List Char) : ∃ i j : Inventory,
    (readSections text).outcome = .ok i ∧
    (readSections (withoutVariables text)).outcome = .ok j ∧
    i.groups.names = groupsOf (headers text) ∧
    j.groups.names = groupsOf (memberHeaders (headers text)) ∧
    (i.groups = j.groups ↔ i.groups.names = j.groups.names) ∧
    (Trailing (headers text) → i.groups.names = j.groups.names) ∧
    (i.groups.names = j.groups.names →
      ∀ f group, i.expandFile f group = j.expandFile f group) ∧
    (∀ name ∈ j.groups.names, ∀ m, Reaches i.groups m name ↔
      Reaches j.groups m name ∧ referred? i.groups m = none) ∧
    ∀ name ∈ i.groups.names, name ∉ j.groups.names → i.groups.get? name = some [] ∧
      ∀ t : Target, reference? t.host = some name →
        (i.expandTarget t).outcome = .ok [] ∧ (j.expandTarget t).outcome = .ok [t] := by
  have hi := names_ofSections text
  have hj : (ofSections (withoutVariables text)).groups.names =
      groupsOf (memberHeaders (headers text)) := by
    rw [names_ofSections, headers_withoutVariables]
  refine ⟨ofSections text, ofSections (withoutVariables text), readSections_outcome text,
    readSections_outcome _, hi, hj, ⟨fun h => by rw [h], fun h => by rw [ofSections_eq h]⟩,
    fun h => by rw [hi, hj, h.groupsOf_eq], fun h f group => by rw [ofSections_eq h],
    fun name hname m => reaches_ofSections hname m, fun name hname hout => ?_⟩
  have hnil := get?_of_variables hname hout
  exact ⟨hnil, fun t ht => ⟨expandTarget_of_nil ht hnil, expandTarget_of_unknown ht hout⟩⟩

/-- Variables of a group with a host, and of one that nothing else names. -/
def untidy : List Char := "[g]\nr\n[g:vars]\nv=1\n[a:children]\ng\nx\n[x:vars]\nv=1\n".toList

def tidy : List Char := "[g]\nr\n[a]\n[g:vars]\nv=1\n".toList

theorem trailing_tidy : Trailing (headers tidy) := by
  have hheaders : headers tidy = [("g", ""), ("a", ""), ("g", "vars")] := by decide +kernel
  rw [hheaders]
  intro before group after h
  have hlength := congrArg List.length h
  match before, hlength with
  | [], _ => simp at h
  | [_], _ => simp at h
  | [_, _], _ =>
    simp only [List.cons_append, List.nil_append, List.cons.injEq, Prod.mk.injEq] at h
    obtain ⟨rfl, rfl, ⟨rfl, -⟩, -⟩ := h
    exact ⟨"", by decide⟩
  | _ :: _ :: _ :: _, hlength => simp at hlength

theorem readSections_untidy :
    (∃ i j : Inventory, (readSections untidy).outcome = .ok i ∧
      (readSections (withoutVariables untidy)).outcome = .ok j ∧
      i.groups.names = ["g", "a", "x"] ∧ j.groups.names = ["g", "a"] ∧
      Reaches i.groups "r" "a" ∧ Reaches j.groups "@x" "a" ∧ ¬Reaches i.groups "@x" "a" ∧
      (i.expandTarget ⟨"@x", .none, []⟩).outcome = .ok []) ∧
    Trailing (headers tidy) ∧ ∃ i j : Inventory, (readSections tidy).outcome = .ok i ∧
      (readSections (withoutVariables tidy)).outcome = .ok j ∧
      ∀ f group, i.expandFile f group = j.expandFile f group := by
  obtain ⟨i, j, hi, hj, hinames, hjnames, -, -, -, hreaches, hdropped⟩ :=
    readSections_withoutVariables untidy
  obtain ⟨i', j', hi', hj', -, -, -, htrailing, hsame, -⟩ := readSections_withoutVariables tidy
  refine ⟨⟨i, j, hi, hj, ?_⟩, trailing_tidy, i', j', hi', hj', hsame (htrailing trailing_tidy)⟩
  have hinames : i.groups.names = ["g", "a", "x"] := by
    rw [hinames]
    decide +kernel
  have hjnames : j.groups.names = ["g", "a"] := by
    rw [hjnames]
    decide +kernel
  obtain rfl := Except.ok.inj ((readSections_outcome _).symm.trans hi)
  obtain rfl := Except.ok.inj ((readSections_outcome _).symm.trans hj)
  have ha : (ofSections (withoutVariables untidy)).groups.get? "a" = some ["r", "@x"] := by
    decide +kernel
  have hrj : Reaches (ofSections (withoutVariables untidy)).groups "r" "a" :=
    .member ha (by decide) (by decide +kernel)
  have hxj : Reaches (ofSections (withoutVariables untidy)).groups "@x" "a" :=
    .member ha (by decide) (by decide +kernel)
  have hmem : "a" ∈ (ofSections (withoutVariables untidy)).groups.names := by simp [hjnames]
  refine ⟨hinames, hjnames, (hreaches "a" hmem "r").2 ⟨hrj, by decide +kernel⟩, hxj, fun hxi => ?_,
    ((hdropped "x" (by simp [hinames]) (by simp [hjnames])).2 _ rfl).1⟩
  have hnone := ((hreaches "a" hmem "@x").1 hxi).2
  revert hnone
  decide +kernel

/-- A section of variables makes a group, and a target that names it is lost. -/
theorem target_lost_to_variables : ∃ i j : Inventory,
    (readSections "[x:vars]\nv=1\n".toList).outcome = .ok i ∧
    (readSections (withoutVariables "[x:vars]\nv=1\n".toList)).outcome = .ok j ∧
    i.groups.entries = [("x", [])] ∧ j.groups.entries = [] ∧
    (i.expandFile ⟨[⟨"@x", .none, []⟩]⟩ "").outcome = .ok ⟨[]⟩ ∧
    (j.expandFile ⟨[⟨"@x", .none, []⟩]⟩ "").outcome = .ok ⟨[⟨"@x", .none, []⟩]⟩ := by
  refine ⟨_, _, readSections_outcome _, readSections_outcome _, ?_, ?_, ?_, ?_⟩
  · decide +kernel
  · decide +kernel
  · rw [← toOption_eq_some_iff]
    decide +kernel
  · rw [← toOption_eq_some_iff]
    decide +kernel

end Inventory

end StateCheck
