import StateCheck.Proofs.Files
import StateCheck.Proofs.Inventory.Loading

/-!
Looking for an inventory among several files: which of them are skipped, which one is taken, and on
which the search breaks off.
-/

namespace StateCheck.Inventory

variable {yaml : Yaml.Reader} {files files' : Files} {p : String} {ps before after : List String}
  {i : Inventory} {b : Breakdown} {o : Except Fault (Option Inventory)}

/-! ### Candidates -/

/-- A candidate that is no regular file, or one that cannot be loaded. -/
inductive Skipped (yaml : Yaml.Reader) (files : Files) (p : String) : Prop
  | absent (h : files.isFile p = .ok false)
  | failed {f : Failure} {cause : Option Fault} (h : files.isFile p = .ok true)
      (hf : (load yaml files p).outcome = .error (.failure f cause))

def failed : Except Fault Inventory → Bool
  | .error (.failure ..) => true
  | _ => false

theorem failed_iff {attempt : Except Fault Inventory} :
    failed attempt = true ↔ ∃ f cause, attempt = .error (.failure f cause) := by
  unfold failed
  split <;> simp_all

theorem skipped_iff : Skipped yaml files p ↔ (files.isFile p).toOption = some false ∨
    (files.isFile p).toOption = some true ∧ failed (load yaml files p).outcome = true := by
  rw [toOption_eq_some_iff, toOption_eq_some_iff, failed_iff]
  constructor
  · rintro (h | ⟨h, hf⟩)
    · exact .inl h
    · exact .inr ⟨h, _, _, hf⟩
  · rintro (h | ⟨h, f, cause, hf⟩)
    · exact .absent h
    · exact .failed h hf

instance (yaml : Yaml.Reader) (files : Files) (p : String) : Decidable (Skipped yaml files p) :=
  decidable_of_iff _ skipped_iff.symm

/-- A regular file from which an inventory is loaded. -/
structure Usable (yaml : Yaml.Reader) (files : Files) (p : String) (i : Inventory) : Prop where
  regular : files.isFile p = .ok true
  loaded : (load yaml files p).outcome = .ok i

/-- A candidate on which the search breaks off: its name is too long, its bytes are no text, or
reading its text as a document breaks off. -/
inductive Derails (yaml : Yaml.Reader) (files : Files) (p : String) : Breakdown → Prop
  | name (hnul : '\x00' ∉ p.toList) (h : files.entry p = .error .nameTooLong) :
      Derails yaml files p .system
  | bytes {bytes : List UInt8} (h : files.isFile p = .ok true)
      (hentry : files.entry p = .ok (.file bytes)) (hb : Text.Utf8.decode? bytes = none) :
      Derails yaml files p .notUtf8
  | text {text : List Char} {b : Breakdown} (h : files.isFile p = .ok true)
      (htext : files.readText (Files.normal p) = .ok text) (hb : Breaks yaml text b) :
      Derails yaml files p b

theorem load_of_not_utf8 (h : files.readText (Files.normal p) = .error .notUtf8) :
    load yaml files p = .breakOff .notUtf8 := by
  delta load
  dsimp only
  rw [h]

theorem load_of_breaks {text : List Char} (h : files.readText (Files.normal p) = .ok text)
    (hb : Breaks yaml text b) : load yaml files p = .breakOff b := by
  rw [load_of_text h, firstOf_of_breakOff hb.readYaml]

theorem readText_of_bytes {bytes : List UInt8} (h : files.isFile p = .ok true)
    (hentry : files.entry p = .ok (.file bytes)) (hb : Text.Utf8.decode? bytes = none) :
    files.readText (Files.normal p) = .error .notUtf8 := by
  rw [Files.readText_normal]
  exact Files.readText_eq_notUtf8_iff.2 ⟨(Files.isFile_iff.1 h).1, bytes, hentry, hb⟩

/-- A regular file is loaded, with groups, or fails without a notice, or derails the search. -/
theorem load_or (h : files.isFile p = .ok true) :
    (∃ i, (load yaml files p).outcome = .ok i ∧ i.source = some (Files.normal p) ∧
      i.groups.isEmpty = false) ∨
    (∃ messages, load yaml files p = .fail (unusable (Files.normal p) messages)) ∨
    ∃ b, Derails yaml files p b ∧ load yaml files p = .breakOff b := by
  obtain ⟨bytes, hentry, hread⟩ := Files.readText_of_isFile h
  cases hb : Text.Utf8.decode? bytes with
  | none =>
    rw [hb] at hread
    exact .inr (.inr ⟨_, .bytes h hentry hb, load_of_not_utf8 hread⟩)
  | some cs =>
    rw [hb] at hread
    rcases load_cases hread with hloaded | ⟨messages, -, hfail⟩ | ⟨b, hbreaks, hload⟩
    · exact .inl hloaded
    · exact .inr (.inl ⟨messages, hfail⟩)
    · exact .inr (.inr ⟨b, .text h hread hbreaks, hload⟩)

theorem skipped_or (yaml : Yaml.Reader) (files : Files) (p : String) :
    Skipped yaml files p ∨ (∃ i, Usable yaml files p i) ∨ ∃ b, Derails yaml files p b := by
  cases h : files.isFile p with
  | error r =>
    obtain ⟨hnul, hlong, -⟩ := Files.isFile_eq_error_iff.1 h
    exact .inr (.inr ⟨_, .name hnul hlong⟩)
  | ok regular =>
    cases regular with
    | false => exact .inl (.absent h)
    | true =>
      rcases load_or h with ⟨i, hi, -⟩ | ⟨messages, hfail⟩ | ⟨b, hderails, -⟩
      · exact .inr (.inl ⟨i, h, hi⟩)
      · exact .inl (.failed h (by rw [hfail]; rfl))
      · exact .inr (.inr ⟨b, hderails⟩)

/-- What is loaded comes from the file, and has groups. -/
theorem Usable.groups (h : Usable yaml files p i) :
    i.source = some (Files.normal p) ∧ i.groups.isEmpty = false := by
  obtain ⟨hregular, hloaded⟩ := h
  rcases load_or hregular with ⟨j, hj, hgroups⟩ | ⟨messages, hfail⟩ | ⟨b, -, hload⟩
  · obtain rfl := Except.ok.inj (hj.symm.trans hloaded)
    exact hgroups
  · rw [hfail] at hloaded
    cases hloaded
  · rw [hload] at hloaded
    cases hloaded

/-! ### The search -/

theorem load_of_failed {f : Failure} {cause : Option Fault} (h : files.isFile p = .ok true)
    (hf : (load yaml files p).outcome = .error (.failure f cause)) :
    f.kind = .inventory ∧ load yaml files p = .fail f := by
  rcases load_or h with ⟨i, hi, -⟩ | ⟨messages, hfail⟩ | ⟨b, -, hload⟩
  · rw [hi] at hf
    cases hf
  · rw [hfail] at hf ⊢
    cases hf
    exact ⟨rfl, rfl⟩
  · rw [hload] at hf
    cases hf

/-- How the search goes on from its first candidate. -/
theorem discover_cons (yaml : Yaml.Reader) (files : Files) (p : String) (ps : List String) :
    (files.isFile p = .ok false → discover yaml files (p :: ps) = discover yaml files ps) ∧
    (∀ r, files.isFile p = .error r → discover yaml files (p :: ps) = .breakOff r.breakdown) ∧
    (files.isFile p = .ok true →
      (∀ f : Failure, f.kind = .inventory → load yaml files p = .fail f →
        discover yaml files (p :: ps) = discover yaml files ps) ∧
      (∀ i, (load yaml files p).outcome = .ok i →
        (discover yaml files (p :: ps)).outcome = .ok (some i)) ∧
      ∀ b, load yaml files p = .breakOff b →
        (discover yaml files (p :: ps)).outcome = .error (.breakdown b)) := by
  rw [discover]
  refine ⟨fun h => by rw [h], fun r h => by rw [h], fun h => ?_⟩
  rw [h]
  dsimp only
  refine ⟨fun f hkind hload => ?_, fun i hi => by rw [hi], fun b hload => ?_⟩
  · rw [hload]
    simp only [Noted.outcome_fail, hkind, if_true]
    rfl
  · rw [hload]
    rfl

theorem discover_of_skipped (h : Skipped yaml files p) (ps : List String) :
    discover yaml files (p :: ps) = discover yaml files ps := by
  obtain ⟨habsent, -, hregular⟩ := discover_cons yaml files p ps
  cases h with
  | absent h => exact habsent h
  | failed h hf =>
    obtain ⟨hkind, hload⟩ := load_of_failed h hf
    exact (hregular h).1 _ hkind hload

theorem discover_of_usable (h : Usable yaml files p i) (ps : List String) :
    (discover yaml files (p :: ps)).outcome = .ok (some i) := by
  obtain ⟨-, -, hregular⟩ := discover_cons yaml files p ps
  exact (hregular h.regular).2.1 i h.loaded

theorem discover_of_derails (h : Derails yaml files p b) (ps : List String) :
    (discover yaml files (p :: ps)).outcome = .error (.breakdown b) := by
  obtain ⟨-, hrefused, hregular⟩ := discover_cons yaml files p ps
  cases h with
  | name hnul h =>
    rw [hrefused _ (Files.isFile_eq_error_iff.2 ⟨hnul, h, rfl⟩)]
    rfl
  | bytes h hentry hb =>
    exact (hregular h).2.2 _ (load_of_not_utf8 (readText_of_bytes h hentry hb))
  | text h htext hb => exact (hregular h).2.2 _ (load_of_breaks htext hb)

/-- Candidates that are skipped leave no trace, not even a notice. -/
theorem discover_append (h : ∀ q ∈ before, Skipped yaml files q) (after : List String) :
    discover yaml files (before ++ after) = discover yaml files after := by
  induction before with
  | nil => rfl
  | cons q before ih =>
    obtain ⟨hq, hbefore⟩ := List.forall_mem_cons.1 h
    rw [List.cons_append, discover_of_skipped hq, ih hbefore]

/-- What a search comes to: nothing if all candidates are skipped, or else what the first other one
gives. -/
inductive Finds (yaml : Yaml.Reader) (files : Files) :
    List String → Except Fault (Option Inventory) → Prop
  | nothing {ps : List String} (h : ∀ q ∈ ps, Skipped yaml files q) : Finds yaml files ps (.ok none)
  | inventory {before after : List String} {p : String} {i : Inventory}
      (hbefore : ∀ q ∈ before, Skipped yaml files q) (hp : Usable yaml files p i) :
      Finds yaml files (before ++ p :: after) (.ok (some i))
  | breakdown {before after : List String} {p : String} {b : Breakdown}
      (hbefore : ∀ q ∈ before, Skipped yaml files q) (hp : Derails yaml files p b) :
      Finds yaml files (before ++ p :: after) (.error (.breakdown b))

theorem Finds.cons_of_skipped (hp : Skipped yaml files p) (h : Finds yaml files ps o) :
    Finds yaml files (p :: ps) o := by
  cases h with
  | nothing h => exact .nothing (List.forall_mem_cons.2 ⟨hp, h⟩)
  | inventory hbefore hq =>
    rw [← List.cons_append]
    exact .inventory (List.forall_mem_cons.2 ⟨hp, hbefore⟩) hq
  | breakdown hbefore hq =>
    rw [← List.cons_append]
    exact .breakdown (List.forall_mem_cons.2 ⟨hp, hbefore⟩) hq

theorem exists_finds (yaml : Yaml.Reader) (files : Files) (ps : List String) :
    ∃ o, Finds yaml files ps o := by
  induction ps with
  | nil => exact ⟨_, .nothing (List.forall_mem_nil _)⟩
  | cons p ps ih =>
    rcases skipped_or yaml files p with hp | ⟨i, hi⟩ | ⟨b, hb⟩
    · obtain ⟨o, ho⟩ := ih
      exact ⟨o, ho.cons_of_skipped hp⟩
    · exact ⟨_, .inventory (List.forall_mem_nil _) hi⟩
    · exact ⟨_, .breakdown (List.forall_mem_nil _) hb⟩

theorem Finds.outcome (h : Finds yaml files ps o) : (discover yaml files ps).outcome = o := by
  cases h with
  | nothing h =>
    rw [← List.append_nil ps, discover_append h]
    rfl
  | inventory hbefore hp => rw [discover_append hbefore, discover_of_usable hp]
  | breakdown hbefore hp => rw [discover_append hbefore, discover_of_derails hp]

theorem outcome_eq_iff : (discover yaml files ps).outcome = o ↔ Finds yaml files ps o := by
  refine ⟨fun h => ?_, Finds.outcome⟩
  obtain ⟨o', ho'⟩ := exists_finds yaml files ps
  rwa [← h, ho'.outcome]

theorem finds_some_iff : Finds yaml files ps (.ok (some i)) ↔ ∃ before p after,
    ps = before ++ p :: after ∧ (∀ q ∈ before, Skipped yaml files q) ∧ Usable yaml files p i := by
  constructor
  · intro h
    cases h with
    | inventory hbefore hp => exact ⟨_, _, _, rfl, hbefore, hp⟩
  · rintro ⟨before, p, after, rfl, hbefore, hp⟩
    exact .inventory hbefore hp

theorem finds_none_iff : Finds yaml files ps (.ok none) ↔ ∀ q ∈ ps, Skipped yaml files q := by
  refine ⟨fun h => ?_, .nothing⟩
  cases h with
  | nothing h => exact h

theorem finds_error_iff {e : Fault} : Finds yaml files ps (.error e) ↔ ∃ before p after b,
    ps = before ++ p :: after ∧ (∀ q ∈ before, Skipped yaml files q) ∧ Derails yaml files p b ∧
      e = .breakdown b := by
  constructor
  · intro h
    cases h with
    | breakdown hbefore hp => exact ⟨_, _, _, _, rfl, hbefore, hp, rfl⟩
  · rintro ⟨before, p, after, b, rfl, hbefore, hp, rfl⟩
    exact .breakdown hbefore hp

/-! ### What the search depends on -/

theorem isFile_congr (h : files.entry p = files'.entry p) : files.isFile p = files'.isFile p := by
  rw [Files.isFile, Files.isFile, h]

theorem load_congr (h : files.entry p = files'.entry p) :
    load yaml files p = load yaml files' p := by
  -- The text is read at the normal form of the path, which leads to the same place.
  have hread : files.readText (Files.normal p) = files'.readText (Files.normal p) := by
    rw [Files.readText_normal, Files.readText_normal, Files.readText_congr h]
  delta load
  dsimp only
  rw [hread]

theorem discover_congr (h : ∀ q ∈ ps, files.entry q = files'.entry q) :
    discover yaml files ps = discover yaml files' ps := by
  induction ps with
  | nil => rfl
  | cons p ps ih =>
    obtain ⟨hp, hps⟩ := List.forall_mem_cons.1 h
    rw [discover, discover, isFile_congr hp, load_congr hp, ih hps]

/-- The search takes the first file that can be loaded, which has groups then and is named as their
source, and finds none if all candidates are skipped. What stands in skipped candidates in front
does not matter. But the search does not get past every candidate: it breaks off on a name that is
too long, on bytes that are no text, and on a text that breaks off the reading of a document. -/
theorem discover_outcome (yaml : Yaml.Reader) (files : Files) (ps : List String) :
    (∀ i, (discover yaml files ps).outcome = .ok (some i) ↔ ∃ before p after,
      ps = before ++ p :: after ∧ (∀ q ∈ before, Skipped yaml files q) ∧ Usable yaml files p i) ∧
    ((discover yaml files ps).outcome = .ok none ↔ ∀ q ∈ ps, Skipped yaml files q) ∧
    (∀ e, (discover yaml files ps).outcome = .error e ↔ ∃ before p after b,
      ps = before ++ p :: after ∧ (∀ q ∈ before, Skipped yaml files q) ∧ Derails yaml files p b ∧
        e = .breakdown b) ∧
    (∀ p i, Usable yaml files p i → i.source = some (Files.normal p) ∧ i.groups.isEmpty = false) ∧
    ∀ (files' : Files) (before after : List String), ps = before ++ after →
      (∀ q ∈ before, Skipped yaml files q ∧ Skipped yaml files' q) →
      (∀ q ∈ after, files.entry q = files'.entry q) →
        discover yaml files ps = discover yaml files' ps := by
  refine ⟨fun i => outcome_eq_iff.trans finds_some_iff, outcome_eq_iff.trans finds_none_iff,
    fun e => outcome_eq_iff.trans finds_error_iff, fun p i => Usable.groups, ?_⟩
  rintro files' before after rfl hbefore hafter
  rw [discover_append fun q hq => (hbefore q hq).1, discover_append fun q hq => (hbefore q hq).2,
    discover_congr hafter]

/-- A file of words, which are neither groups of a document nor sections, and one of sections. -/
def scattered (words : String) : Files :=
  .ofList [("inventory.yaml", .file words.toUTF8.toList),
    ("etc/hosts", .file "[g]\nr\n".toUTF8.toList)]

theorem discover_scattered :
    (∀ words ∈ ["just some words", ""], ∀ q ∈ ["inventory.ini", "inventory.yaml", "etc"],
      Skipped Yaml.load (scattered words) q) ∧
    ∃ i, Usable Yaml.load (scattered "just some words") "./etc//hosts" i ∧
      i.source = some "etc/hosts" ∧ i.groups.entries = [("g", ["r"])] ∧
      (discover Yaml.load (scattered "just some words")
        ["inventory.ini", "inventory.yaml", "etc", "./etc//hosts"]).outcome = .ok (some i) ∧
      (discover Yaml.load (scattered "")
        ["inventory.ini", "inventory.yaml", "etc"]).outcome = .ok none ∧
      discover Yaml.load (scattered "just some words")
        ["inventory.ini", "inventory.yaml", "etc", "./etc//hosts"] =
      discover Yaml.load (scattered "")
        ["inventory.ini", "inventory.yaml", "etc", "./etc//hosts"] := by
  have hskipped : ∀ words ∈ ["just some words", ""],
      ∀ q ∈ ["inventory.ini", "inventory.yaml", "etc"], Skipped Yaml.load (scattered words) q := by
    decide +kernel
  have hwords := hskipped "just some words" (by simp)
  have hempty := hskipped "" (by simp)
  have hloaded : (load Yaml.load (scattered "just some words") "./etc//hosts").outcome.toOption.map
      (fun i => i.groups.entries) = some [("g", ["r"])] := by decide +kernel
  obtain ⟨i, hi, hgroups⟩ := Option.map_eq_some_iff.1 hloaded
  have husable : Usable Yaml.load (scattered "just some words") "./etc//hosts" i :=
    ⟨toOption_eq_some_iff.1 (by decide +kernel), toOption_eq_some_iff.1 hi⟩
  have hsame : (scattered "just some words").entry "./etc//hosts" =
      (scattered "").entry "./etc//hosts" := by
    trans .ok (.file "[g]\nr\n".toUTF8.toList)
    · exact toOption_eq_some_iff.1 (by decide +kernel)
    · exact (toOption_eq_some_iff.1 (by decide +kernel)).symm
  obtain ⟨hsome, -, -, hsource, hcongr⟩ := discover_outcome Yaml.load (scattered "just some words")
    (["inventory.ini", "inventory.yaml", "etc"] ++ ["./etc//hosts"])
  obtain ⟨-, hnone, -⟩ :=
    discover_outcome Yaml.load (scattered "") ["inventory.ini", "inventory.yaml", "etc"]
  have hnormal : Files.normal "./etc//hosts" = "etc/hosts" := by decide +kernel
  exact ⟨hskipped, i, husable, hnormal ▸ (hsource _ i husable).1, hgroups,
    (hsome i).2 ⟨_, _, [], rfl, hwords, husable⟩, hnone.2 hempty,
    hcongr _ _ _ rfl (fun q hq => ⟨hwords q hq, hempty q hq⟩) (by simpa using hsame)⟩

/-- A file whose bytes are no text, and an inventory of sections. -/
def garbled : Files :=
  .ofList [("inventory.yaml", .file [255]), ("hosts", .file "[g]\nr\n".toUTF8.toList)]

/-- The search breaks off on the first file and does not get to the inventory. -/
theorem discover_garbled :
    (discover Yaml.load garbled standardPaths).outcome = .error (.breakdown .notUtf8) ∧
    (∀ q ∈ ["inventory.yml", "inventory.ini", "inventory", "hosts.yaml", "hosts.yml"],
      Skipped Yaml.load garbled q) ∧
    ∃ i, Usable Yaml.load garbled "hosts" i ∧ i.groups.entries = [("g", ["r"])] := by
  have hregular : garbled.isFile "inventory.yaml" = .ok true :=
    toOption_eq_some_iff.1 (by decide +kernel)
  have hentry : garbled.entry "inventory.yaml" = .ok (.file [255]) :=
    toOption_eq_some_iff.1 (by decide +kernel)
  refine ⟨discover_of_derails (.bytes hregular hentry (by decide +kernel)) _, by decide +kernel, ?_⟩
  have hloaded : (load Yaml.load garbled "hosts").outcome.toOption.map (fun i => i.groups.entries) =
      some [("g", ["r"])] := by decide +kernel
  obtain ⟨i, hi, hgroups⟩ := Option.map_eq_some_iff.1 hloaded
  exact ⟨i, ⟨toOption_eq_some_iff.1 (by decide +kernel), toOption_eq_some_iff.1 hi⟩, hgroups⟩

end StateCheck.Inventory
