import Mathlib.Data.List.Permutation
import StateCheck.Proofs.Baseline.Listing

/-!
Assertions about the status of interfaces and the state of sessions: what surveys find, and which
of it the device confirms.
-/

namespace StateCheck.Baseline

variable {s : Source} {doc e : Json.Value}

/-! ### Interfaces -/

namespace Interfaces

def statusPath (name : String) : String := "interface[" ++ name ++ "]/state/oper-status"

def canonicalPath (name : String) : String :=
  "/interfaces/interface[name=" ++ name ++ "]/state/oper-status"

def listing : Listing where
  path := Interfaces.path
  list := "interface"
  key := "name"
  leaf := "oper-status"
  admits name state := !startsWithAny skipped name && !isDown (state.get? "admin-status")
  short := statusPath
  canonical := canonicalPath
  title name := name

theorem isListed_iff : listing.isListed e = true ↔
    ¬(listing.label e = "" ∨ startsWithAny skipped (listing.label e) = true) ∧
      ¬isDown ((stateOf e).get? "admin-status") = true := by
  unfold Listing.isListed
  change (_ && (!startsWithAny skipped _ && !isDown _)) = true ↔ _
  simp [not_or, and_assoc]

theorem interfaceAssertions_eq (he : isObject e = true) (hs : isObject (stateOf e) = true) :
    interfaceAssertions e = .ok (if listing.isListed e then [listing.assertion e] else []) := by
  have hname : textWithState e (stateOf e) "name" = .ok (listing.label e) := textWithState_eq he hs
  have hstatus : askText (stateOf e) "oper-status" = .ok (listing.status e) :=
    askText_of_isObject hs
  unfold interfaceAssertions
  dsimp only
  rw [hname, hstatus, ask_of_isObject hs]
  dsimp only [bind, Except.bind]
  by_cases hskipped : listing.label e = "" ∨ startsWithAny skipped (listing.label e) = true
  · rw [if_pos hskipped, if_neg fun h => (isListed_iff.1 h).1 hskipped]
    rfl
  · rw [if_neg hskipped]
    by_cases hdown : isDown ((stateOf e).get? "admin-status") = true
    · rw [if_pos hdown, if_neg fun h => (isListed_iff.1 h).2 hdown]
      rfl
    · rw [if_neg hdown, if_pos (isListed_iff.2 ⟨hskipped, hdown⟩)]
      rfl

theorem expand_statusPath {name : String} (hne : name ≠ "") (hname : ']' ∉ name.toList) :
    Path.expand (statusPath name) = canonicalPath name := by
  have hi : Path.IsInstance name := ⟨hne, hname⟩
  have hshort : statusPath name = "interface[" ++ name ++ "]/" ++ "state/oper-status" := by
    unfold statusPath
    simp [← String.toList_inj]
  have hrest : '\n' ∉ "state/oper-status".toList := by decide +kernel
  have hexpand := (Path.Means.interface hi "state/oper-status").toList_expand hrest
  rw [hshort, ← String.toList_inj, hexpand]
  unfold canonicalPath
  simp [Path.frontChars, Path.Element.chars_bare, Path.Element.chars_named]

/-- What a survey of the interfaces asserts, and which of it the device confirms. -/
theorem survey_outcome (h : listing.Mirrored s doc) :
    (generator.survey s).outcome = .ok ((listing.listed doc).map listing.assertion) ∧
      ∀ e ∈ listing.listed doc, s.Confirms (listing.assertion e) ↔
        ∃ text, listing.leafOf? e = some (.string text) := by
  refine ⟨?_, fun e he => h.confirms_iff he ?_⟩
  · have hassertions : assertions doc = .ok ((listing.listed doc).flatMap fun e =>
        [listing.assertion e]) :=
      gather_filter fun e he => interfaceAssertions_eq (isObject_of_mem_entries he) (h.state e he)
    refine (outcome_of_reports h.reports gather_of_not_isObject).trans ?_
    rw [hassertions, ← List.map_eq_flatMap]
    rfl
  · have hne : listing.label e ≠ "" := fun hempty =>
      (isListed_iff.1 (List.mem_filter.1 he).2).1 (.inl hempty)
    exact expand_statusPath hne fun hm => (h.label e he _ hm).2 rfl

end Interfaces

/-! ### Sessions -/

namespace Bgp

/-- The path of the session within the protocol. -/
def sessionPart (address : String) : String :=
  "neighbors/neighbor[neighbor-address=" ++ address ++ "]/state/session-state"

def sessionPath (address : String) : String :=
  "bgp[default]/neighbors/neighbor[neighbor-address=" ++ address ++ "]" ++ "/state/session-state"

def canonicalPath (address : String) : String := protocolPath "BGP" ("bgp/" ++ sessionPart address)

def listing : Listing where
  path := neighborsPath
  list := "neighbor"
  key := "neighbor-address"
  leaf := "session-state"
  admits _ _ := true
  short := sessionPath
  canonical := canonicalPath
  title address := "BGP peer " ++ address

theorem sessionPath_eq (address : String) :
    sessionPath address = Path.protocolShort ("bgp", "BGP") "default" (sessionPart address) := by
  unfold sessionPath Path.protocolShort sessionPart
  simp [← String.toList_inj]

theorem expand_sessionPath {address : String} (hline : '\n' ∉ address.toList) :
    Path.expand (sessionPath address) = canonicalPath address := by
  have hrest : '\n' ∉ (sessionPart address).toList := by
    unfold sessionPart
    simp [hline]
  have hbgp : ("bgp", "BGP") ∈ Path.protocols := by decide
  have hdefault : Path.IsInstance "default" := by unfold Path.IsInstance; decide
  have hexpand := (Path.Means.protocol hbgp hdefault (sessionPart address)).toList_expand hrest
  rw [sessionPath_eq, ← String.toList_inj, hexpand]
  unfold canonicalPath protocolPath
  simp [Path.frontChars, Path.Element.chars_bare, Path.Element.chars_named,
    Path.Element.chars_ofProtocol]

/-- A text with a line break in it, and not at its end, is no rest of a line. -/
theorem fit?_eq_none_of_line {before after : String} {f : Path.Filling}
    (hclosed : (Path.Shape.keyed before after).isClosed = true)
    (hf : (Path.Shape.keyed before after).Takes f) (hline : '\n' ∈ f.rest)
    (hlast : f.rest.getLast? ≠ some '\n') :
    (Path.Shape.keyed before after).fit? ((Path.Shape.keyed before after).fill f) = none := by
  refine Option.eq_none_iff_forall_ne_some.2 fun f' hf' => ?_
  obtain ⟨htakes, hrest, hcs⟩ := (Path.Shape.fit?_eq_some_iff hclosed).1 hf'
  -- Both texts go on in the same way up to the bracket, so that only their rests could differ.
  have hsame (tail : List Char)
      (h : (Path.Shape.keyed before after).fill f = (Path.Shape.keyed before after).fill f' ++ tail) :
      f.rest = f'.rest ++ tail := by
    simp only [Path.Shape.fill, List.append_assoc, List.append_cancel_left_eq] at h
    obtain ⟨-, h⟩ := Path.first_inj hf.2 (Path.Shape.startsWith_after hclosed _) htakes.2
      (Path.Shape.startsWith_after hclosed _) h
    exact List.append_cancel_left h
  rcases hcs with h | h
  · have heq := hsame [] (by rw [h, List.append_nil])
    rw [heq, List.append_nil] at hline
    exact hrest hline
  · exact hlast (by simp [hsame _ h])

/-- With a line break in the address, the path of a session has no canonical form. -/
theorem expand_sessionPath_of_line {address : String} (hline : '\n' ∈ address.toList) :
    Path.expand (sessionPath address) = "/" ++ sessionPath address := by
  have hclosed : (Path.Shape.keyed "bgp[" "]/").isClosed = true := by decide
  have hfill : (sessionPath address).toList = (Path.Shape.keyed "bgp[" "]/").fill
      ⟨"default".toList, (sessionPart address).toList⟩ := by
    rw [sessionPath_eq]
    unfold Path.protocolShort
    simp [Path.Shape.fill]
  have hdefault : "default".toList ≠ [] ∧ ']' ∉ "default".toList := by decide
  have htakes : (Path.Shape.keyed "bgp[" "]/").Takes
      ⟨"default".toList, (sessionPart address).toList⟩ := hdefault
  have hlast : (sessionPart address).toList.getLast? = some 'e' := by
    unfold sessionPart
    rw [String.toList_append, List.getLast?_append_of_ne_nil _ (by decide +kernel)]
    decide +kernel
  have hrest : '\n' ∈ (sessionPart address).toList := by
    unfold sessionPart
    simp [hline]
  have hown := fit?_eq_none_of_line hclosed htakes hrest (by rw [hlast]; decide)
  have hnone : Path.reshape? Path.Shortcut.short Path.Shortcut.canonical
      (sessionPath address).toList = none := by
    refine List.findSome?_eq_none_iff.2 fun k hk => Option.map_eq_none_iff.2 ?_
    rw [hfill]
    -- The first shortcut is that of sessions; the others have a different beginning.
    rcases List.mem_cons.1 hk with rfl | hk'
    · exact hown
    · have hapart : ∀ l ∈ Path.shortcuts.tail,
          Path.Shape.apart l.short (.keyed "bgp[" "]/") = true := by decide +kernel
      exact Path.fit?_eq_none (hapart k hk') (Path.isClosed_short hk) hclosed htakes (.inl rfl)
  have hshort : Path.isShort (sessionPath address) = true := by
    unfold sessionPath
    simp [Path.isShort]
  rw [Path.expand, if_pos hshort, hnone]

/-- The address families of a neighbor. -/
def familiesIn (e : Json.Value) : List Json.Value :=
  (member? e "afi-safis").elim [] (entries · "afi-safi")

theorem isObject_of_mem_familiesIn {f : Json.Value} (h : f ∈ familiesIn e) : isObject f = true := by
  unfold familiesIn at h
  cases hm : member? e "afi-safis" with
  | none =>
    rw [hm] at h
    cases h
  | some v =>
    rw [hm] at h
    exact isObject_of_mem_entries h

def familyPath (address family : String) : String :=
  "bgp[default]/neighbors/neighbor[neighbor-address=" ++ address ++ "]" ++
    "/afi-safis/afi-safi[afi-safi-name=" ++ family ++ "]/state/active"

/-- The assertions about the address families of a neighbor. -/
def familyAssertions (e : Json.Value) : Except Breakdown (List Assertion) :=
  gather (familyAssertion (listing.label e)
    ("bgp[default]/neighbors/neighbor[neighbor-address=" ++ listing.label e ++ "]")) (familiesIn e)

theorem family_cases {f : Json.Value} (hf : isObject f = true) :
    family f = .error .notMapping ∧ isObject (stateOf f) = false ∨
      ∃ found, family f = .ok found := by
  unfold family
  dsimp only
  rw [ask_of_isObject hf]
  cases hs : isObject (stateOf f) with
  | false =>
    rw [ask_of_not_isObject hs]
    exact .inl ⟨rfl, rfl⟩
  | true =>
    rw [ask_of_isObject hs, ask_of_isObject hs]
    dsimp only [bind, Except.bind, pure, Except.pure]
    generalize (if localName (setText (f.get? "afi-safi-name")) = "" then
      localName (setText ((stateOf f).get? "afi-safi-name"))
      else localName (setText (f.get? "afi-safi-name"))) = name
    refine .inr ?_
    split
    · exact ⟨none, rfl⟩
    · split <;> exact ⟨_, rfl⟩

theorem familyAssertion_cases {f : Json.Value} (address start : String) (hf : isObject f = true) :
    familyAssertion address start f = .error .notMapping ∧ isObject (stateOf f) = false ∨
      ∃ as, familyAssertion address start f = .ok as := by
  unfold familyAssertion
  obtain ⟨herror, hs⟩ | ⟨found, hfound⟩ := family_cases hf
  · rw [herror]
    exact .inl ⟨rfl, hs⟩
  · rw [hfound]
    dsimp only [bind, Except.bind, pure, Except.pure]
    refine .inr ?_
    split <;> exact ⟨_, rfl⟩

theorem familyAssertions_cases (e : Json.Value) :
    familyAssertions e = .error .notMapping ∧ (∃ f ∈ familiesIn e, isObject (stateOf f) = false) ∨
      ∃ as, familyAssertions e = .ok as := by
  have hcases (f : Json.Value) (hf : f ∈ familiesIn e) :=
    familyAssertion_cases (listing.label e)
      ("bgp[default]/neighbors/neighbor[neighbor-address=" ++ listing.label e ++ "]")
      (isObject_of_mem_familiesIn hf)
  obtain ⟨herror, f, hf, hbad⟩ | ⟨hok, -⟩ := gather_cases fun f hf => (hcases f hf).imp_left And.left
  · refine .inl ⟨herror, f, hf, ?_⟩
    obtain ⟨-, hs⟩ | ⟨as, has⟩ := hcases f hf
    · exact hs
    · cases has.symm.trans hbad
  · exact .inr hok

theorem gives_familyAssertions (e : Json.Value) : Gives (familyAssertions e) fun a =>
    ∃ family, a.path = familyPath (listing.label e) family := by
  refine gives_gather fun f _ => gives_bind fun found _ => ?_
  split
  · next name _ => exact gives_ok (List.forall_mem_singleton.2 ⟨name, rfl⟩)
  · exact gives_ok (List.forall_mem_nil _)

theorem isListed_iff : listing.isListed e = true ↔ listing.label e ≠ "" := by
  unfold Listing.isListed
  change (_ && true) = true ↔ _
  simp

theorem neighborAssertions_eq (he : isObject e = true) (hs : isObject (stateOf e) = true) :
    neighborAssertions e = if listing.isListed e then
      (familyAssertions e).map (listing.assertion e :: ·) else .ok [] := by
  have hname : textWithState e (stateOf e) "neighbor-address" = .ok (listing.label e) :=
    textWithState_eq he hs
  have hstatus : askText (stateOf e) "session-state" = .ok (listing.status e) :=
    askText_of_isObject hs
  unfold neighborAssertions
  dsimp only
  rw [hname, hstatus]
  dsimp only [bind, Except.bind]
  by_cases hempty : listing.label e = ""
  · rw [if_pos hempty, if_neg fun h => isListed_iff.1 h hempty]
    rfl
  · rw [if_neg hempty, if_pos (isListed_iff.2 hempty)]
    rfl

theorem neighborAssertions_cases (he : isObject e = true) (hs : isObject (stateOf e) = true) :
    neighborAssertions e = .error .notMapping ∧ listing.isListed e = true ∧
        (∃ f ∈ familiesIn e, isObject (stateOf f) = false) ∨
      ∃ as, neighborAssertions e = .ok as := by
  rw [neighborAssertions_eq he hs]
  cases hlisted : listing.isListed e with
  | false => exact .inr ⟨[], rfl⟩
  | true =>
    rw [if_pos rfl]
    obtain ⟨herror, hf⟩ | ⟨as, has⟩ := familyAssertions_cases e
    · rw [herror]
      exact .inl ⟨rfl, rfl, hf⟩
    · rw [has]
      exact .inr ⟨_, rfl⟩

/-- The assertions about the families of a neighbor for which there are some. -/
def others (e : Json.Value) : List Assertion := (familyAssertions e).toOption.getD []

theorem others_spec : ∀ a ∈ others e, ∃ family, a.path = familyPath (listing.label e) family := by
  unfold others
  cases h : familyAssertions e with
  | error b => exact List.forall_mem_nil _
  | ok as => exact gives_familyAssertions e as h

/-- Without a family whose state is no object, the assertions about a listed neighbor are that
about its session and those about its families. -/
theorem assertions_eq_ok (hobject : ∀ e ∈ entries doc "neighbor", isObject (stateOf e) = true)
    (h : ∀ e ∈ entries doc "neighbor", ∃ as, neighborAssertions e = .ok as) :
    assertions doc = .ok ((listing.listed doc).flatMap fun e => listing.assertion e :: others e) := by
  refine gather_filter fun e he => ?_
  obtain ⟨as, has⟩ := h e he
  rw [neighborAssertions_eq (isObject_of_mem_entries he) (hobject e he)] at has ⊢
  cases hlisted : listing.isListed e with
  | false => rfl
  | true =>
    rw [hlisted, if_pos rfl] at has
    obtain ⟨families, hfamilies, -⟩ := map_eq_ok has
    have hothers : others e = families := by
      unfold others
      rw [hfamilies]
      rfl
    rw [if_pos rfl, if_pos rfl, hfamilies, hothers]
    rfl

/-- What a survey of the sessions asserts, and which of it the device confirms. A line break in an
address keeps the device from being asked for the canonical path. -/
theorem survey_outcome (h : listing.Mirrored s doc) :
    ((generator.survey s).outcome = .error (.breakdown .notMapping) ∧
        ∃ e ∈ listing.listed doc, ∃ f ∈ familiesIn e, isObject (stateOf f) = false) ∨
      (generator.survey s).outcome =
          .ok ((listing.listed doc).flatMap fun e => listing.assertion e :: others e) ∧
        ∀ e ∈ listing.listed doc,
          ('\n' ∉ (listing.label e).toList → (s.Confirms (listing.assertion e) ↔
            ∃ text, listing.leafOf? e = some (.string text))) ∧
          ('\n' ∈ (listing.label e).toList → (s.Confirms (listing.assertion e) ↔
            s.Shows ("/" ++ (listing.assertion e).path) (listing.status e))) := by
  have hsurvey : (generator.survey s).outcome = (assertions doc).mapError .breakdown :=
    outcome_of_reports h.reports gather_of_not_isObject
  have hcases (e : Json.Value) (he : e ∈ entries doc "neighbor") :=
    neighborAssertions_cases (isObject_of_mem_entries he) (h.state e he)
  rw [hsurvey]
  obtain ⟨herror, e, he, hbad⟩ | ⟨-, hok⟩ := gather_cases fun e he => (hcases e he).imp_left And.left
  · obtain ⟨-, hlisted, hf⟩ | ⟨as, has⟩ := hcases e he
    · have hassertions : assertions doc = .error .notMapping := herror
      rw [hassertions]
      exact .inl ⟨rfl, e, List.mem_filter.2 ⟨he, hlisted⟩, hf⟩
    · cases has.symm.trans hbad
  · rw [assertions_eq_ok h.state hok]
    refine .inr ⟨rfl, fun e he => ⟨fun hline => ?_, fun hline => ?_⟩⟩
    · exact h.confirms_iff he (expand_sessionPath hline)
    · have hexpand : Path.expand (listing.short (listing.label e)) =
          "/" ++ (listing.assertion e).path := expand_sessionPath_of_line hline
      rw [← hexpand]
      exact confirms_equality_iff

end Bgp

/-! ### Both -/

/-- On a device that answers for the leaves of the lists as the lists have them, an assertion about
the status of an interface or the state of a session passes exactly if the leaf is a text. One is
made about every listed entry, also if the entry leaves the leaf out. -/
theorem statuses_of_mirrored (s : Source) :
    (∀ doc, Interfaces.listing.Mirrored s doc →
      (Interfaces.generator.survey s).outcome =
          .ok ((Interfaces.listing.listed doc).map Interfaces.listing.assertion) ∧
        ∀ e ∈ Interfaces.listing.listed doc, s.Confirms (Interfaces.listing.assertion e) ↔
          ∃ text, Interfaces.listing.leafOf? e = some (.string text)) ∧
    ∀ doc, Bgp.listing.Mirrored s doc →
      ((Bgp.generator.survey s).outcome = .error (.breakdown .notMapping) ∧
          ∃ e ∈ Bgp.listing.listed doc, ∃ f ∈ Bgp.familiesIn e, isObject (stateOf f) = false) ∨
        ∃ others : Json.Value → List Assertion,
          (Bgp.generator.survey s).outcome =
            .ok ((Bgp.listing.listed doc).flatMap fun e => Bgp.listing.assertion e :: others e) ∧
          (∀ e, ∀ a ∈ others e, ∃ family,
            a.path = Bgp.familyPath (Bgp.listing.label e) family) ∧
          ∀ e ∈ Bgp.listing.listed doc,
            ('\n' ∉ (Bgp.listing.label e).toList → (s.Confirms (Bgp.listing.assertion e) ↔
              ∃ text, Bgp.listing.leafOf? e = some (.string text))) ∧
            ('\n' ∈ (Bgp.listing.label e).toList → (s.Confirms (Bgp.listing.assertion e) ↔
              s.Shows ("/" ++ (Bgp.listing.assertion e).path) (Bgp.listing.status e))) := by
  refine ⟨fun doc h => Interfaces.survey_outcome h, fun doc h => ?_⟩
  obtain herror | ⟨hok, hconfirms⟩ := Bgp.survey_outcome h
  · exact .inl herror
  · exact .inr ⟨Bgp.others, hok, fun _ => Bgp.others_spec, hconfirms⟩

/-- An interface with this state. -/
def uplinkEntry (state : List (String × Json.Value)) : Json.Value :=
  .object [("name", .string "Et1"), ("state", .object state)]

def uplinkText : String :=
  "\x7b\"interface\":[\x7b\"name\":\"Et1\",\"state\":\x7b\"oper-status\":\"UP\"\x7d\x7d]\x7d"

def peerEntry : Json.Value :=
  .object [("neighbor-address", .string "p"), ("state", .object [("session-state", .string "UP")])]

def peerText : String :=
  "\x7b\"neighbor\":[\x7b\"neighbor-address\":\"p\",\"state\":\x7b\"session-state\":\"UP\"\x7d\x7d]\x7d"

theorem decode_uplinkText : decode uplinkText =
    .object [("interface", .array [uplinkEntry [("oper-status", .string "UP")]])] := by cbv

theorem decode_peerText : decode peerText = .object [("neighbor", .array [peerEntry])] := by cbv

theorem label_uplinkEntry (state : List (String × Json.Value)) :
    Interfaces.listing.label (uplinkEntry state) = "Et1" := rfl

theorem label_peerEntry : Bgp.listing.label peerEntry = "p" := rfl

/-- A device with one interface, which is up, and one session. -/
def linked : Source := .ofTexts [
  (Interfaces.path, uplinkText), (Interfaces.canonicalPath "Et1", "UP"),
  (Bgp.neighborsPath, peerText), (Bgp.canonicalPath "p", "UP")]

theorem mirrored_uplink : Interfaces.listing.Mirrored linked
    (.object [("interface", .array [uplinkEntry [("oper-status", .string "UP")]])]) := by
  have hshows : linked.Shows Interfaces.path uplinkText := shows_ofTexts rfl
  refine Listing.mirrored_singleton (e := uplinkEntry [("oper-status", .string "UP")])
    (shows_of_reports.2 ⟨_, hshows, decode_uplinkText⟩) rfl rfl ?_ ?_
  · rw [label_uplinkEntry]
    simp
  · rw [label_uplinkEntry]
    exact serves_ofTexts (by decide +kernel)

theorem mirrored_peer : Bgp.listing.Mirrored linked
    (.object [("neighbor", .array [peerEntry])]) := by
  have hshows : linked.Shows Bgp.neighborsPath peerText := shows_ofTexts (by decide +kernel)
  refine Listing.mirrored_singleton (e := peerEntry)
    (shows_of_reports.2 ⟨_, hshows, decode_peerText⟩) rfl rfl ?_ ?_
  · rw [label_peerEntry]
    simp
  · rw [label_peerEntry]
    exact serves_ofTexts (by decide +kernel)

theorem listed_uplink : Interfaces.listing.listed (.object [("interface", .array
    [uplinkEntry [("oper-status", .string "UP")]])]) =
      [uplinkEntry [("oper-status", .string "UP")]] :=
  Listing.listed_singleton rfl (by decide +kernel)

theorem listed_peer : Bgp.listing.listed (.object [("neighbor", .array [peerEntry])]) =
    [peerEntry] := by
  refine Listing.listed_singleton rfl (Bgp.isListed_iff.2 ?_)
  rw [label_peerEntry]
  decide

/-- The device confirms what is asserted about its interface and about its session. -/
theorem statuses_of_linked :
    (∃ a, (Interfaces.generator.survey linked).outcome = .ok [a] ∧ linked.Confirms a) ∧
    ∃ a as, (Bgp.generator.survey linked).outcome = .ok (a :: as) ∧ linked.Confirms a := by
  obtain ⟨hinterfaces, hsessions⟩ := statuses_of_mirrored linked
  constructor
  · obtain ⟨houtcome, hconfirms⟩ := hinterfaces _ mirrored_uplink
    rw [listed_uplink] at houtcome hconfirms
    exact ⟨_, houtcome, (hconfirms _ List.mem_cons_self).2 ⟨"UP", rfl⟩⟩
  · have hstatuses := hsessions _ mirrored_peer
    rw [listed_peer] at hstatuses
    obtain ⟨-, e, he, f, hf, -⟩ | ⟨others, houtcome, -, hconfirms⟩ := hstatuses
    · rw [List.mem_singleton.1 he] at hf
      cases hf
    · have hline : '\n' ∉ (Bgp.listing.label peerEntry).toList := by
        rw [label_peerEntry]
        decide
      exact ⟨_, _, houtcome, ((hconfirms _ List.mem_cons_self).1 hline).2 ⟨"UP", rfl⟩⟩

def bareText : String := "\x7b\"interface\":[\x7b\"name\":\"Et1\",\"state\":\x7b\x7d\x7d]\x7d"

/-- A device with one interface, whose state is empty. -/
def bare : Source := .ofTexts [(Interfaces.path, bareText)]

theorem decode_bareText :
    decode bareText = .object [("interface", .array [uplinkEntry []])] := by cbv

/-- The assertion about a status that the device does not have fails on it. -/
theorem unconfirmed_status : Interfaces.listing.Mirrored bare
      (.object [("interface", .array [uplinkEntry []])]) ∧
    ∃ a, (Interfaces.generator.survey bare).outcome = .ok [a] ∧ ¬bare.Confirms a := by
  have hshows : bare.Shows Interfaces.path bareText := shows_ofTexts rfl
  have hmirrored : Interfaces.listing.Mirrored bare
      (.object [("interface", .array [uplinkEntry []])]) := by
    refine Listing.mirrored_singleton (e := uplinkEntry [])
      (shows_of_reports.2 ⟨_, hshows, decode_bareText⟩) rfl rfl ?_ ?_
    · rw [label_uplinkEntry]
      simp
    · rw [label_uplinkEntry]
      rfl
  have hlisted : Interfaces.listing.listed (.object [("interface", .array [uplinkEntry []])]) =
      [uplinkEntry []] := Listing.listed_singleton rfl (by decide +kernel)
  obtain ⟨houtcome, hconfirms⟩ := Interfaces.survey_outcome hmirrored
  rw [hlisted] at houtcome hconfirms
  refine ⟨hmirrored, _, houtcome, fun h => ?_⟩
  obtain ⟨text, htext⟩ := (hconfirms _ List.mem_cons_self).1 h
  cases htext

end StateCheck.Baseline
