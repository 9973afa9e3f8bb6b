import StateCheck.Proofs.Inventory.Documents
import StateCheck.Proofs.Inventory.Sections
import StateCheck.Yaml.Load

/-!
Loading an inventory: the text of its file is read as a document, and as a file of sections if the
document gives no groups.
-/

namespace StateCheck.Inventory

open Yaml

variable {yaml : Reader} {files : Files} {path : String} {text : List Char}
  {messages : List String} {reader : List Char → Noted Inventory}
  {readers : List (List Char → Noted Inventory)} {i : Inventory} {f : Failure} {b : Breakdown}

/-! ### Lines in brackets -/

/-- A line in brackets, with blanks around them. -/
def Bracketed (line : List Char) : Prop :=
  ∃ inner, Text.trim line = '[' :: (inner ++ [']'])

theorem lineOf_of_bracketed {line : List Char} (h : Bracketed line) :
    ∃ group kind, lineOf line = .header group kind := by
  obtain ⟨inner, hinner⟩ := h
  unfold lineOf
  rw [hinner]
  simp

theorem bracketed_of_header {line : List Char} {group kind : String}
    (h : lineOf line = .header group kind) : Bracketed line := by
  unfold lineOf at h
  split at h
  · cases h
  · cases h
  · cases h
  · next rest htrim =>
    split at h
    · next inner hrest =>
      exact ⟨inner.reverse, by rw [htrim, ← List.reverse_reverse rest, hrest, List.reverse_cons]⟩
    · cases h
  · cases h

/-- The headers of a text are its lines in brackets. -/
theorem headers_eq_nil_iff : headers text = [] ↔ ∀ line ∈ Text.lines text, ¬Bracketed line := by
  rw [headers, List.filterMap_map, List.filterMap_eq_nil_iff]
  refine forall₂_congr fun line _ => ?_
  rw [Function.comp_apply]
  constructor
  · intro h hline
    obtain ⟨group, kind, hheader⟩ := lineOf_of_bracketed hline
    rw [hheader] at h
    cases h
  · intro h
    cases hline : lineOf line with
    | header group kind => exact absurd (bracketed_of_header hline) h
    | nothing | entry => rfl

theorem headers_ne_nil_iff : headers text ≠ [] ↔ ∃ line ∈ Text.lines text, Bracketed line := by
  rw [Ne, headers_eq_nil_iff]
  push Not
  rfl

/-! ### Texts without groups -/

theorem groupsOf_eq_nil_iff {hs : List (String × String)} : groupsOf hs = [] ↔ hs = [] := by
  rw [List.eq_nil_iff_forall_not_mem, List.eq_nil_iff_forall_not_mem]
  simp only [mem_groupsOf, not_exists, Prod.forall]

theorem isEmpty_ofSections : (ofSections text).groups.isEmpty = true ↔ headers text = [] := by
  rw [Table.isEmpty_iff, names_ofSections, groupsOf_eq_nil_iff]

/-- Nothing is noted about an inventory that comes out without groups. -/
theorem notices_of_isEmpty (h : i.groups.isEmpty = true) : i.expandReferences.notices = [] := by
  have hentries : i.groups.entries = [] := by simpa [Table.isEmpty] using h
  have hsettled : hasReferences i.groups = false := by
    rw [hasReferences, hentries]
    rfl
  rw [expandReferences_notices]
  refine (flatGroups_eq i.groups).2 ?_
  rw [passLimit, expandWithin, hsettled]
  rfl

theorem isEmpty_expandReferences {j : Inventory} (h : i.expandReferences.outcome = .ok j) :
    j.groups.isEmpty = i.groups.isEmpty := by
  rw [expandReferences_outcome] at h
  cases h
  rw [Bool.eq_iff_iff, Table.isEmpty_iff, Table.isEmpty_iff,
    (preserves_expandWithin passLimit i.groups).names]

/-! ### Texts as documents -/

/-- A text on which reading a document breaks off: the reader does, or its document makes it. -/
inductive Breaks (yaml : Reader) (text : List Char) : Breakdown → Prop
  | text {b : Breakdown} (h : yaml text = .error (.breakdown b)) : Breaks yaml text b
  | document {b : Breakdown} {doc : Value} (h : yaml text = .ok doc) (hb : BreaksOff doc b) :
      Breaks yaml text b

/-- What is read from a text, what it is refused with, or on what reading breaks off. -/
theorem readYaml_or (yaml : Reader) (text : List Char) :
    (∃ i : Inventory, readYaml yaml text = i.expandReferences) ∨
    (∃ f, f.kind = .inventory ∧ readYaml yaml text = .fail f) ∨
      ∃ b, Breaks yaml text b ∧ readYaml yaml text = .breakOff b := by
  unfold readYaml
  cases h : yaml text with
  | error e =>
    cases e with
    | malformed => exact .inr (.inl ⟨_, rfl, rfl⟩)
    | breakdown b => exact .inr (.inr ⟨b, .text h, rfl⟩)
  | ok doc =>
    rcases ofDocument_or doc with hread | ⟨f, hf⟩ | ⟨b, hb⟩
    · exact .inl hread
    · exact .inr (.inl ⟨f, hf.kind, hf.ofDocument⟩)
    · exact .inr (.inr ⟨b, .document h hb, hb.ofDocument⟩)

theorem Breaks.readYaml (h : Breaks yaml text b) : Inventory.readYaml yaml text = .breakOff b := by
  unfold Inventory.readYaml
  cases h with
  | text h => rw [h]
  | document h hb =>
    rw [h]
    exact hb.ofDocument

/-! ### Readers in turn -/

/-- The failure of a file that none of the readers makes anything of. -/
def unusable (path : String) (messages : List String) : Failure :=
  .of .inventory "unable to parse inventory (tried YAML and INI)"
    (("file", path) ::
      if messages.isEmpty then [] else [("errors", Text.joinWith "; " messages)])

theorem firstOf_cons (path : String) (text : List Char) (messages : List String)
    (reader : List Char → Noted Inventory) (readers : List (List Char → Noted Inventory)) :
    firstOf path text messages (reader :: readers) =
      match (reader text).outcome with
      | .error (.failure f cause) =>
        if f.kind = .inventory then
          let rest := firstOf path text (messages ++ [f.message]) readers
          ⟨(reader text).notices ++ rest.notices, rest.outcome⟩
        else ⟨(reader text).notices, .error (.failure f cause)⟩
      | .error e => ⟨(reader text).notices, .error e⟩
      | .ok i =>
        if i.groups.isEmpty then
          let rest := firstOf path text messages readers
          ⟨(reader text).notices ++ rest.notices, rest.outcome⟩
        else ⟨(reader text).notices, .ok { i with source := some path }⟩ := rfl

theorem firstOf_of_fail (hf : f.kind = .inventory) (h : reader text = .fail f) :
    firstOf path text messages (reader :: readers) =
      firstOf path text (messages ++ [f.message]) readers := by
  rw [firstOf_cons, h]
  simp only [Noted.outcome_fail, hf, if_true]
  rfl

theorem firstOf_of_breakOff (h : reader text = .breakOff b) :
    firstOf path text messages (reader :: readers) = .breakOff b := by
  rw [firstOf_cons, h]
  rfl

theorem firstOf_of_isEmpty (h : (reader text).outcome = .ok i) (hi : i.groups.isEmpty = true)
    (hnotices : (reader text).notices = []) :
    firstOf path text messages (reader :: readers) = firstOf path text messages readers := by
  simp only [firstOf_cons, h, hi, hnotices]
  rfl

theorem firstOf_of_groups (h : (reader text).outcome = .ok i) (hi : i.groups.isEmpty = false) :
    firstOf path text messages (reader :: readers) =
      ⟨(reader text).notices, .ok { i with source := some path }⟩ := by
  simp only [firstOf_cons, h, hi, Bool.false_eq_true, if_false]

/-- The sections of a text are taken if it has a header. -/
theorem firstOf_sections (path : String) (text : List Char) (messages : List String) :
    (headers text = [] → firstOf path text messages [readSections] =
      .fail (unusable path messages)) ∧
    (headers text ≠ [] → firstOf path text messages [readSections] =
      ⟨(readSections text).notices, .ok { ofSections text with source := some path }⟩) := by
  have houtcome := readSections_outcome text
  constructor
  · intro h
    have hempty := isEmpty_ofSections.2 h
    refine firstOf_of_isEmpty houtcome hempty (notices_of_isEmpty ?_)
    rw [← isEmpty_expandReferences houtcome, hempty]
  · intro h
    have hgroups : (ofSections text).groups.isEmpty = false := by
      simpa using isEmpty_ofSections.not.2 h
    exact firstOf_of_groups houtcome hgroups

theorem sections_eq_ok_iff : (firstOf path text messages [readSections]).outcome = .ok i ↔
    headers text ≠ [] ∧ i = { ofSections text with source := some path } := by
  obtain ⟨hnone, hsome⟩ := firstOf_sections path text messages
  by_cases h : headers text = []
  · rw [hnone h]
    simp [h]
  · rw [hsome h]
    simp [h, eq_comm]

theorem sections_cases (path : String) (text : List Char) (messages : List String) :
    (∃ i, (firstOf path text messages [readSections]).outcome = .ok i ∧ i.source = some path ∧
      i.groups.isEmpty = false) ∨
    headers text = [] ∧
      firstOf path text messages [readSections] = .fail (unusable path messages) := by
  by_cases h : headers text = []
  · exact .inr ⟨h, (firstOf_sections path text messages).1 h⟩
  · have hgroups : (ofSections text).groups.isEmpty = false := by
      simpa using isEmpty_ofSections.not.2 h
    exact .inl ⟨_, sections_eq_ok_iff.2 ⟨h, rfl⟩, rfl, hgroups⟩

/-- The document of a text is taken, or leaves the text to be read as sections, or breaks reading
off. -/
theorem document_cases (yaml : Reader) (path : String) (text : List Char) :
    (∃ i, (firstOf path text [] [readYaml yaml, readSections]).outcome = .ok i ∧
      i.source = some path ∧ i.groups.isEmpty = false) ∨
    (∃ messages, firstOf path text [] [readYaml yaml, readSections] =
      firstOf path text messages [readSections]) ∨
    ∃ b, Breaks yaml text b ∧ firstOf path text [] [readYaml yaml, readSections] = .breakOff b := by
  rcases readYaml_or yaml text with ⟨i, hi⟩ | ⟨f, hkind, hf⟩ | ⟨b, hbreaks, hb⟩
  · obtain ⟨j, hj⟩ : ∃ j, i.expandReferences.outcome = .ok j := ⟨_, expandReferences_outcome i⟩
    have hread : (readYaml yaml text).outcome = .ok j := by rw [hi, hj]
    cases hempty : j.groups.isEmpty with
    | false =>
      rw [firstOf_of_groups hread hempty]
      exact .inl ⟨_, rfl, rfl, hempty⟩
    | true =>
      -- A document without groups is no failure: it leaves neither a message nor a notice.
      have hnotices : (readYaml yaml text).notices = [] := by
        rw [hi]
        exact notices_of_isEmpty (by rw [← isEmpty_expandReferences hj, hempty])
      exact .inr (.inl ⟨[], firstOf_of_isEmpty hread hempty hnotices⟩)
  · exact .inr (.inl ⟨_, firstOf_of_fail hkind hf⟩)
  · exact .inr (.inr ⟨b, hbreaks, firstOf_of_breakOff hb⟩)

theorem load_of_text (h : files.readText (Files.normal path) = .ok text) :
    load yaml files path = firstOf (Files.normal path) text [] [readYaml yaml, readSections] := by
  delta load
  dsimp only
  rw [h]

/-- Loading a text gives an inventory with groups or fails without a notice, unless reading breaks
off. -/
theorem load_cases (h : files.readText (Files.normal path) = .ok text) :
    (∃ i, (load yaml files path).outcome = .ok i ∧ i.source = some (Files.normal path) ∧
      i.groups.isEmpty = false) ∨
    (∃ messages, headers text = [] ∧
      load yaml files path = .fail (unusable (Files.normal path) messages)) ∨
    ∃ b, Breaks yaml text b ∧ load yaml files path = .breakOff b := by
  rw [load_of_text h]
  rcases document_cases yaml (Files.normal path) text with hread | ⟨messages, hrest⟩ | hbreaks
  · exact .inl hread
  · rw [hrest]
    rcases sections_cases (Files.normal path) text messages with hread | hfail
    · exact .inl hread
    · exact .inr (.inl ⟨messages, hfail⟩)
  · exact .inr (.inr hbreaks)

/-! ### Refused documents -/

/-- Whether a refused document keeps an inventory from being loaded depends on the lines of its
text: if one of them is in brackets, the text is loaded as a file of sections, and nothing that the
document says counts. Only a text without such a line fails, with the message about its
document. -/
theorem load_of_refused {doc : Value} (htext : files.readText (Files.normal path) = .ok text)
    (hdoc : yaml text = .ok doc) :
    (∀ f cause, (readYaml yaml text).outcome = .error (.failure f cause) ↔
      Refused doc f ∧ cause = none) ∧
    ∀ f, Refused doc f → f.kind = .inventory ∧
      ((∃ i, (load yaml files path).outcome = .ok i) ↔ ∃ line ∈ Text.lines text, Bracketed line) ∧
      ((∀ line ∈ Text.lines text, ¬Bracketed line) →
        load yaml files path = .fail (unusable (Files.normal path) [f.message])) ∧
      ∀ i, (load yaml files path).outcome = .ok i →
        i = { ofSections text with source := some (Files.normal path) } ∧
        i.groups.names = groupsOf (headers text) := by
  have hyaml : readYaml yaml text = ofDocument doc := by rw [readYaml, hdoc]
  refine ⟨fun f cause => by rw [hyaml, refused_iff], fun f hf => ?_⟩
  have hload : load yaml files path =
      firstOf (Files.normal path) text [f.message] [readSections] := by
    rw [load_of_text htext, firstOf_of_fail hf.kind (hyaml.trans hf.ofDocument), List.nil_append]
  rw [hload, ← headers_ne_nil_iff, ← headers_eq_nil_iff]
  simp only [sections_eq_ok_iff]
  refine ⟨hf.kind, ⟨fun ⟨_, h, _⟩ => h, fun h => ⟨_, h, rfl⟩⟩, (firstOf_sections ..).1, ?_⟩
  rintro i ⟨-, rfl⟩
  exact ⟨rfl, names_ofSections text⟩

/-- A document with a default port and a group of one host. -/
def ofTexts (d p port g name host : String) : Value :=
  .mapping [(.string d, .mapping [(.string p, .string port)]),
    (.string g, .mapping [(.string name, .list [.string host])])]

def texts? : Value → Option (List String)
  | .mapping [(.string d, .mapping [(.string p, .string port)]),
      (.string g, .mapping [(.string name, .list [.string host])])] =>
    some [d, p, port, g, name, host]
  | _ => none

theorem eq_of_texts? {doc : Value} {d p port g name host : String}
    (h : texts? doc = some [d, p, port, g, name, host]) : doc = ofTexts d p port g name host := by
  unfold texts? at h
  split at h
  · simp only [Option.some.injEq, List.cons.injEq, and_true] at h
    obtain ⟨rfl, rfl, rfl, rfl, rfl, rfl⟩ := h
    rfl
  · cases h

/-- A document whose port is spelled in letters. -/
def lettered : Value := ofTexts "defaults" "port" "abc" "groups" "spines" "spine1"

theorem refused_lettered : Refused lettered (.of .inventory "invalid default port 'abc'" []) :=
  (refused_iff.1 rfl).1

theorem load_lettered (h : (Yaml.load text).toOption.bind texts? =
    some ["defaults", "port", "abc", "groups", "spines", "spine1"]) :
    Yaml.load text = .ok lettered := by
  obtain ⟨doc, hload, hdoc⟩ := Option.bind_eq_some_iff.1 h
  rw [lettered, ← eq_of_texts? hdoc]
  exact toOption_eq_some_iff.1 hload

/-- A working directory with one inventory. -/
def holding (text : String) : Files := .ofList [("inventory.yaml", .file text.toUTF8.toList)]

def onOneLine : String := "defaults:\n  port: abc\ngroups:\n  spines: [spine1]\n"

theorem load_onOneLine :
    (holding onOneLine).readText (Files.normal "inventory.yaml") = .ok onOneLine.toList ∧
    Yaml.load onOneLine.toList = .ok lettered ∧
    load Yaml.load (holding onOneLine) "inventory.yaml" =
      .fail (unusable "inventory.yaml" ["invalid default port 'abc'"]) := by
  have htext : (holding onOneLine).readText (Files.normal "inventory.yaml") =
      .ok onOneLine.toList := toOption_eq_some_iff.1 (by decide +kernel)
  have hdoc : Yaml.load onOneLine.toList = .ok lettered := load_lettered (by decide +kernel)
  refine ⟨htext, hdoc, ?_⟩
  have hnormal : Files.normal "inventory.yaml" = "inventory.yaml" := by decide +kernel
  obtain ⟨-, -, hfails, -⟩ := (load_of_refused htext hdoc).2 _ refused_lettered
  rw [hnormal] at hfails
  exact hfails (headers_eq_nil_iff.1 (by decide +kernel))

def onTwoLines : String := "defaults:\n  port: abc\ngroups:\n  spines:\n    [spine1]\n"

/-- The list of hosts on a line of its own is taken for the header of a section. -/
theorem refused_read_as_sections : ∃ members f,
    Yaml.load onTwoLines.toList = .ok (.mapping members) ∧ Refused (.mapping members) f ∧
    ∃ i, (load Yaml.load (holding onTwoLines) "inventory.yaml").outcome = .ok i ∧
      i.groups.entries = [("spine1", [])] := by
  refine ⟨_, _, load_lettered (by decide +kernel), refused_lettered, ?_⟩
  have hread : (load Yaml.load (holding onTwoLines) "inventory.yaml").outcome.toOption.map
      (fun i => i.groups.entries) = some [("spine1", [])] := by decide +kernel
  obtain ⟨i, hi, hgroups⟩ := Option.map_eq_some_iff.1 hread
  exact ⟨i, toOption_eq_some_iff.1 hi, hgroups⟩

end StateCheck.Inventory
