import StateCheck.Proofs.Files
import StateCheck.Proofs.Inventory.Documents
import StateCheck.Yaml.Load

/-!
Loading settings: the first candidate that exists decides, whatever it holds. What it is refused
for, and on what loading breaks off instead.
-/

namespace StateCheck.Settings

open Yaml

variable {yaml : Reader} {doc : Value} {e : Value × Value} {es members : List (Value × Value)}
  {source : Option String} {files files' : Files} {p : String} {before after : List String}
  {b : Breakdown} {f : Failure}

/-! ### Settings for single devices -/

/-- What is said about a device breaks loading off: it is no mapping, or it has a number in it that
is too long for a text, or the address is such a number. -/
inductive EntryBreaks (e : Value × Value) : Breakdown → Prop
  | shape (ht : e.2.isTruthy = true) (hm : ∀ ms, e.2 ≠ .mapping ms) : EntryBreaks e .notMapping
  | login (hl : e.2.HasLongLogin) : EntryBreaks e .unreadable
  | address (hshape : e.2.isTruthy = false ∨ ∃ ms, e.2 = .mapping ms)
      (ha : e.1.isWritable = false) : EntryBreaks e .unreadable

theorem overridesOf_eq (h : doc.isTruthy = false ∨ ∃ ms, doc = .mapping ms) :
    overridesOf doc = doc.settingCredentials.map fun c =>
      ⟨c.username, c.password, (doc.given? "insecure").map Value.isTruthy⟩ := by
  unfold overridesOf
  cases ht : doc.isTruthy with
  | false =>
    have hget := Value.get?_of_not_truthy ht
    simp [Value.settingCredentials, Value.settingText, Value.truthy?, Value.given?, hget]
    rfl
  | true =>
    obtain ⟨ms, rfl⟩ := h.resolve_left (by simp [ht])
    unfold Value.settingCredentials
    cases (Value.mapping ms).settingText "username" with
    | error b => rfl
    | ok username => cases (Value.mapping ms).settingText "password" <;> rfl

theorem overridesOf_of_shape (ht : doc.isTruthy = true) (hm : ∀ ms, doc ≠ .mapping ms) :
    overridesOf doc = .error .notMapping := by
  unfold overridesOf
  rw [if_neg (by simp [ht])]
  split
  · next ms => exact absurd rfl (hm ms)
  · rfl

theorem shaped_of_hasLongLogin (h : doc.HasLongLogin) : ∃ ms, doc = .mapping ms := by
  obtain ⟨name, -, w, hw, -⟩ := h
  cases doc with
  | mapping ms => exact ⟨ms, rfl⟩
  | _ => cases hw

theorem readOverrides_cons (table : Table Overrides) (e : Value × Value)
    (es : List (Value × Value)) : readOverrides table (e :: es) =
      (overridesOf e.2 >>= fun o => e.1.written >>= fun address =>
        readOverrides (table.put address o) es) := rfl

theorem EntryBreaks.readOverrides (h : EntryBreaks e b) (table : Table Overrides)
    (es : List (Value × Value)) : Settings.readOverrides table (e :: es) = .error b := by
  rw [readOverrides_cons]
  cases h with
  | shape ht hm =>
    rw [overridesOf_of_shape ht hm]
    rfl
  | login hl =>
    rw [overridesOf_eq (.inr (shaped_of_hasLongLogin hl)),
      Value.settingCredentials_of_hasLongLogin hl]
    rfl
  | address hshape ha =>
    rw [overridesOf_eq hshape, Value.written_of_not_isWritable ha]
    by_cases hl : e.2.HasLongLogin
    · rw [Value.settingCredentials_of_hasLongLogin hl]
      rfl
    · obtain ⟨c, hc⟩ := Value.settingCredentials_of_not_hasLongLogin hl
      rw [hc]
      rfl

theorem entry_or (e : Value × Value) :
    (∃ o address, ∀ table es, readOverrides table (e :: es) =
      readOverrides (table.put address o) es) ∨ ∃ b, EntryBreaks e b := by
  rcases Inventory.shape_or e.2 with hshape | ⟨ht, hm⟩
  · by_cases hl : e.2.HasLongLogin
    · exact .inr ⟨_, .login hl⟩
    · cases ha : e.1.isWritable with
      | false => exact .inr ⟨_, .address hshape ha⟩
      | true =>
        obtain ⟨c, hc⟩ := Value.settingCredentials_of_not_hasLongLogin hl
        obtain ⟨o, ho⟩ : ∃ o, overridesOf e.2 = .ok o := by
          rw [overridesOf_eq hshape, hc]
          exact ⟨_, rfl⟩
        refine .inl ⟨o, e.1.text, fun table es => ?_⟩
        rw [readOverrides_cons, ho, Value.written_of_isWritable ha]
        rfl
  · exact .inr ⟨_, .shape ht hm⟩

/-- Settings for single devices break loading off at the first one that does. -/
theorem readOverrides_eq_error_iff {table : Table Overrides} : readOverrides table es = .error b ↔
    EndsAt (fun e => ∀ b, ¬EntryBreaks e b) EntryBreaks es b := by
  induction es generalizing table with
  | nil => exact iff_of_false nofun nofun
  | cons e es ih =>
    rw [endsAt_cons_iff]
    rcases entry_or e with ⟨o, address, hread⟩ | ⟨b', hb'⟩
    · have hpass (b : Breakdown) : ¬EntryBreaks e b := fun hb =>
        nomatch (hread .empty []).symm.trans (hb.readOverrides .empty [])
      rw [hread, ih]
      simp [hpass]
    · rw [hb'.readOverrides]
      constructor
      · intro h
        cases h
        exact .inl hb'
      · rintro (hb | ⟨hpass, -⟩)
        · exact (hb'.readOverrides .empty []).symm.trans (hb.readOverrides .empty [])
        · exact absurd hb' (hpass b')

/-! ### Documents -/

/-- What stands under a name of a document, or nothing if it is no mapping. -/
def sectionIn? (doc : Value) (name : String) : Option (List (Value × Value)) :=
  Value.settingMembers? (doc.get? name)

/-- A document on which loading breaks off: on one of its devices, or on a number in the defaults
that is too long for a text. -/
inductive DocumentBreaks (doc : Value) : Breakdown → Prop
  | device {defaults targets : List (Value × Value)} {b : Breakdown}
      (hd : sectionIn? doc "defaults" = some defaults)
      (ht : sectionIn? doc "targets" = some targets)
      (hb : EndsAt (fun e => ∀ b, ¬EntryBreaks e b) EntryBreaks targets b) : DocumentBreaks doc b
  | defaults {defaults targets : List (Value × Value)}
      (hd : sectionIn? doc "defaults" = some defaults)
      (ht : sectionIn? doc "targets" = some targets)
      (hpass : ∀ e ∈ targets, ∀ b, ¬EntryBreaks e b)
      (hl : (Value.mapping defaults).HasLongLogin ∨
        ∃ w, (Value.mapping defaults).truthy? "timeout" = some w ∧ w.isWritable = false) :
      DocumentBreaks doc .unreadable

/-- The failure of a document with something else than mappings in its sections. -/
def misplaced (source : Option String) : Failure :=
  .of .config "'defaults' and 'targets' must be mappings" [("source", source.getD "None")]

theorem ofDocument_of_misplaced (h : sectionIn? (.mapping members) "defaults" = none ∨
    sectionIn? (.mapping members) "targets" = none) (source : Option String) :
    ofDocument (.mapping members) source = .error (.ofFailure (misplaced source)) := by
  unfold sectionIn? at h
  unfold ofDocument
  dsimp only
  split
  · next hd ht =>
    rw [hd, ht] at h
    simp at h
  · rfl

theorem ofDocument_of_placed {defaults targets : List (Value × Value)}
    (hd : sectionIn? (.mapping members) "defaults" = some defaults)
    (ht : sectionIn? (.mapping members) "targets" = some targets) (source : Option String) :
    ofDocument (.mapping members) source = (do
      let overrides ← (readOverrides .empty targets).mapError .breakdown
      let credentials ← (Value.mapping defaults).settingCredentials.mapError .breakdown
      let timeout ← ((Value.mapping defaults).settingText "timeout").mapError .breakdown
      .ok ⟨credentials, timeout, overrides, source⟩) := by
  unfold sectionIn? at hd ht
  unfold ofDocument
  dsimp only
  rw [hd, ht]

theorem readOverrides_passes_iff {table : Table Overrides} :
    (∃ overrides, readOverrides table es = .ok overrides) ↔ ∀ e ∈ es, ∀ b, ¬EntryBreaks e b :=
  (exists_eq_ok_iff fun _ => readOverrides_eq_error_iff).trans forall_not_endsAt_iff

theorem DocumentBreaks.ofDocument (h : DocumentBreaks (.mapping members) b)
    (source : Option String) :
    Settings.ofDocument (.mapping members) source = .error (.breakdown b) := by
  cases h with
  | device hd ht hb =>
    rw [ofDocument_of_placed hd ht, readOverrides_eq_error_iff.2 hb]
    rfl
  | @defaults defaults targets hd ht hpass hl =>
    obtain ⟨overrides, ho⟩ := readOverrides_passes_iff.2 hpass
    rw [ofDocument_of_placed hd ht, ho]
    by_cases hlogin : (Value.mapping defaults).HasLongLogin
    · rw [Value.settingCredentials_of_hasLongLogin hlogin]
      rfl
    · obtain ⟨c, hc⟩ := Value.settingCredentials_of_not_hasLongLogin hlogin
      obtain ⟨w, hw, hlong⟩ := hl.resolve_left hlogin
      have htimeout : (Value.mapping defaults).settingText "timeout" = .error .unreadable := by
        simp only [Value.settingText, hw]
        exact Value.written_of_not_isWritable hlong
      rw [hc, htimeout]
      rfl

/-- Settings come of a document of sections, unless loading breaks off. -/
theorem ofDocument_or (members : List (Value × Value)) (source : Option String) :
    (∃ s, ofDocument (.mapping members) source = .ok s ∧ s.source = source) ∨
    (sectionIn? (.mapping members) "defaults" = none ∨
      sectionIn? (.mapping members) "targets" = none) ∨
    ∃ b, DocumentBreaks (.mapping members) b := by
  cases hd : sectionIn? (.mapping members) "defaults" with
  | none => exact .inr (.inl (.inl rfl))
  | some defaults =>
    cases ht : sectionIn? (.mapping members) "targets" with
    | none => exact .inr (.inl (.inr rfl))
    | some targets =>
      cases ho : readOverrides .empty targets with
      | error b => exact .inr (.inr ⟨b, .device hd ht (readOverrides_eq_error_iff.1 ho)⟩)
      | ok overrides =>
        have hpass := readOverrides_passes_iff.1 ⟨overrides, ho⟩
        by_cases hl : (Value.mapping defaults).HasLongLogin
        · exact .inr (.inr ⟨_, .defaults hd ht hpass (.inl hl)⟩)
        · obtain ⟨c, hc⟩ := Value.settingCredentials_of_not_hasLongLogin hl
          rcases Value.settingText_cases (.mapping defaults) "timeout" with
            ⟨⟨timeout, hs⟩, -⟩ | ⟨-, hlong⟩
          · rw [ofDocument_of_placed hd ht, ho, hc, hs]
            exact .inl ⟨_, rfl, rfl⟩
          · exact .inr (.inr ⟨_, .defaults hd ht hpass (.inr hlong)⟩)

/-! ### Files -/

/-- The document that the settings in a file are read from. -/
inductive Holds (yaml : Reader) (files : Files) (p : String) : List (Value × Value) → Prop
  | mapping {text : List Char} {members : List (Value × Value)}
      (ht : files.readText p = .ok text) (hd : yaml text = .ok (.mapping members)) :
      Holds yaml files p members
  | blank {text : List Char} {doc : Value} (ht : files.readText p = .ok text)
      (hd : yaml text = .ok doc) (hblank : doc.isTruthy = false) : Holds yaml files p []

/-- There is no file at a path. -/
structure Missing (files : Files) (p : String) : Prop where
  name : '\x00' ∉ p.toList
  entry : files.entry p = .error .missing

/-- A file that is refused, with the failure that is reported: the system refuses to read it, though
it is there, its bytes are no text, its text is no document, or the document is no mapping or has
something else than mappings in its sections. -/
inductive Refused (yaml : Reader) (files : Files) (p : String) : Failure → Prop
  | system {r : Files.Refusal} (hname : '\x00' ∉ p.toList) (hr : files.read p = .error r)
      (hthere : r ≠ .missing) :
      Refused yaml files p (.of .config ("Cannot read config file " ++ Files.normal p ++ ": " ++
        r.text (Files.normal p)) [])
  | bytes {bytes : List UInt8} (hname : '\x00' ∉ p.toList)
      (hentry : files.entry p = .ok (.file bytes)) (hb : Text.Utf8.decode? bytes = none) :
      Refused yaml files p
        (.of .config ("Cannot read config file " ++ Files.normal p ++ ": <decode error>") [])
  | text {text : List Char} (ht : files.readText p = .ok text)
      (hd : yaml text = .error .malformed) :
      Refused yaml files p (.of .config ("Invalid YAML in config file " ++ Files.normal p) [])
  | shape {text : List Char} {doc : Value} (ht : files.readText p = .ok text)
      (hd : yaml text = .ok doc) (htruthy : doc.isTruthy = true)
      (hm : ∀ ms, doc ≠ .mapping ms) :
      Refused yaml files p
        (.of .config ("Config file " ++ Files.normal p ++ " must contain a mapping") [])
  | sections {members : List (Value × Value)} (hd : Holds yaml files p members)
      (hs : sectionIn? (.mapping members) "defaults" = none ∨
        sectionIn? (.mapping members) "targets" = none) :
      Refused yaml files p (misplaced (some (Files.normal p)))

/-- A file on which loading breaks off: no file can have its name, or its text or the document in it
breaks it off. -/
inductive Derails (yaml : Reader) (files : Files) (p : String) : Breakdown → Prop
  | name (h : '\x00' ∈ p.toList) : Derails yaml files p .unreadable
  | text {text : List Char} {b : Breakdown} (ht : files.readText p = .ok text)
      (hb : yaml text = .error (.breakdown b)) : Derails yaml files p b
  | document {members : List (Value × Value)} {b : Breakdown} (hd : Holds yaml files p members)
      (hb : DocumentBreaks (.mapping members) b) : Derails yaml files p b

theorem Refused.kind (h : Refused yaml files p f) : f.kind = .config := by
  cases h <;> rfl

theorem DocumentBreaks.cases (h : DocumentBreaks doc b) : b = .notMapping ∨ b = .unreadable := by
  cases h with
  | device hd ht hb =>
    obtain ⟨e, -, he⟩ := hb.exists_mem
    cases he <;> simp
  | defaults => exact .inr rfl

theorem Missing.loadFile (h : Missing files p) :
    Settings.loadFile yaml files p = .error (.breakdown .fileMissing) := by
  have hread := Files.readText_eq_refused_iff.2 ⟨h.name, Files.read_eq_missing_iff.2 h.entry⟩
  delta Settings.loadFile
  simp only [Files.readText_normal, hread]

theorem Holds.loadFile (h : Holds yaml files p members) :
    Settings.loadFile yaml files p = ofDocument (.mapping members) (some (Files.normal p)) := by
  delta Settings.loadFile
  cases h with
  | mapping ht hd =>
    simp only [Files.readText_normal, ht, hd]
    cases members <;> rfl
  | blank ht hd hblank => simp [Files.readText_normal, ht, hd, hblank]

theorem Refused.loadFile (h : Refused yaml files p f) :
    Settings.loadFile yaml files p = .error (.ofFailure f) := by
  cases h with
  | system hname hr hthere =>
    have hread := Files.readText_eq_refused_iff.2 ⟨hname, hr⟩
    delta Settings.loadFile
    simp only [Files.readText_normal, hread]
    rfl
  | bytes hname hentry hb =>
    have hread := Files.readText_eq_notUtf8_iff.2 ⟨hname, _, hentry, hb⟩
    delta Settings.loadFile
    simp only [Files.readText_normal, hread]
    rfl
  | text ht hd =>
    delta Settings.loadFile
    simp only [Files.readText_normal, ht, hd]
    rfl
  | shape ht hd htruthy hm =>
    delta Settings.loadFile
    simp only [Files.readText_normal, ht, hd]
    rw [if_pos htruthy]
    split
    · next ms => exact absurd rfl (hm ms)
    · rfl
  | sections hd hs => rw [hd.loadFile, ofDocument_of_misplaced hs]

theorem Derails.loadFile (h : Derails yaml files p b) :
    Settings.loadFile yaml files p = .error (.breakdown b) := by
  cases h with
  | name h =>
    delta Settings.loadFile
    simp only [Files.readText_normal, Files.readText_eq_badName_iff.2 h]
  | text ht hb =>
    delta Settings.loadFile
    simp only [Files.readText_normal, ht, hb]
  | document hd hb => rw [hd.loadFile, hb.ofDocument]

theorem text_or {text : List Char} (ht : files.readText p = .ok text) :
    (∃ members, Holds yaml files p members) ∨ (∃ f, Refused yaml files p f) ∨
      ∃ b, Derails yaml files p b := by
  cases hd : yaml text with
  | error e =>
    cases e with
    | malformed => exact .inr (.inl ⟨_, .text ht hd⟩)
    | breakdown b => exact .inr (.inr ⟨b, .text ht hd⟩)
  | ok doc =>
    by_cases hm : ∃ ms, doc = .mapping ms
    · obtain ⟨ms, rfl⟩ := hm
      exact .inl ⟨ms, .mapping ht hd⟩
    · cases htruthy : doc.isTruthy with
      | false => exact .inl ⟨[], .blank ht hd htruthy⟩
      | true => exact .inr (.inl ⟨_, .shape ht hd htruthy fun ms h => hm ⟨ms, h⟩⟩)

theorem file_or (yaml : Reader) (files : Files) (p : String) : Missing files p ∨
    (∃ members, Holds yaml files p members) ∨ (∃ f, Refused yaml files p f) ∨
      ∃ b, Derails yaml files p b := by
  cases hread : files.readText p with
  | ok text => exact .inr (text_or hread)
  | error e =>
    cases e with
    | badName => exact .inr (.inr (.inr ⟨_, .name (Files.readText_eq_badName_iff.1 hread)⟩))
    | notUtf8 =>
      obtain ⟨hname, bytes, hentry, hb⟩ := Files.readText_eq_notUtf8_iff.1 hread
      exact .inr (.inr (.inl ⟨_, .bytes hname hentry hb⟩))
    | refused r =>
      obtain ⟨hname, hr⟩ := Files.readText_eq_refused_iff.1 hread
      by_cases hmissing : r = .missing
      · exact .inl ⟨hname, Files.read_eq_missing_iff.1 (hmissing ▸ hr)⟩
      · exact .inr (.inr (.inl ⟨_, .system hname hr hmissing⟩))

/-- Settings that a file gives. -/
def Gives (yaml : Reader) (files : Files) (p : String) (s : Settings) : Prop :=
  ∃ members, Holds yaml files p members ∧
    ofDocument (.mapping members) (some (Files.normal p)) = .ok s

theorem loadFile_or (yaml : Reader) (files : Files) (p : String) : Missing files p ∨
    (∃ s, Gives yaml files p s) ∨ (∃ f, Refused yaml files p f) ∨ ∃ b, Derails yaml files p b := by
  rcases file_or yaml files p with h | ⟨members, h⟩ | h
  · exact .inl h
  · rcases ofDocument_or members (some (Files.normal p)) with ⟨s, hs, -⟩ | hs | ⟨b, hb⟩
    · exact .inr (.inl ⟨s, members, h, hs⟩)
    · exact .inr (.inr (.inl ⟨_, .sections h hs⟩))
    · exact .inr (.inr (.inr ⟨b, .document h hb⟩))
  · exact .inr (.inr h)

/-- Reading the text of a file does not end in the way in which opening a missing file ends: a
reader of texts opens no files. -/
def OpensNone (yaml : Reader) (files : Files) (p : String) : Prop :=
  ∀ text, files.readText p = .ok text → yaml text ≠ .error (.breakdown .fileMissing)

theorem OpensNone.congr (h : files.entry p = files'.entry p) (hopens : OpensNone yaml files p) :
    OpensNone yaml files' p := fun text ht => hopens text (Files.readText_congr h ▸ ht)

theorem Derails.ne_fileMissing (hopens : OpensNone yaml files p) (h : Derails yaml files p b) :
    b ≠ .fileMissing := by
  cases h with
  | name => nofun
  | text ht hb =>
    rintro rfl
    exact hopens _ ht hb
  | document hd hb => rcases hb.cases with rfl | rfl <;> nofun

theorem loadFile_eq_ok_iff {s : Settings} :
    loadFile yaml files p = .ok s ↔ Gives yaml files p s := by
  constructor
  · intro h
    rcases loadFile_or yaml files p with hp | ⟨s', hs'⟩ | ⟨f, hf⟩ | ⟨b, hb⟩
    · cases hp.loadFile.symm.trans h
    · obtain ⟨members, hd, hs⟩ := hs'
      exact ⟨members, hd, hd.loadFile.symm.trans h⟩
    · cases hf.loadFile.symm.trans h
    · cases hb.loadFile.symm.trans h
  · rintro ⟨members, hd, hs⟩
    rw [hd.loadFile, hs]

theorem loadFile_eq_failure_iff {cause : Option Fault} :
    loadFile yaml files p = .error (.failure f cause) ↔ Refused yaml files p f ∧ cause = none := by
  constructor
  · intro h
    rcases loadFile_or yaml files p with hp | ⟨s, hs⟩ | ⟨f', hf⟩ | ⟨b, hb⟩
    · cases hp.loadFile.symm.trans h
    · cases (loadFile_eq_ok_iff.2 hs).symm.trans h
    · cases hf.loadFile.symm.trans h
      exact ⟨hf, rfl⟩
    · cases hb.loadFile.symm.trans h
  · rintro ⟨hf, rfl⟩
    exact hf.loadFile

theorem loadFile_eq_breakdown_iff (hthere : ¬Missing files p) :
    loadFile yaml files p = .error (.breakdown b) ↔ Derails yaml files p b := by
  refine ⟨fun h => ?_, Derails.loadFile⟩
  rcases loadFile_or yaml files p with hp | ⟨s, hs⟩ | ⟨f, hf⟩ | ⟨b', hb⟩
  · exact absurd hp hthere
  · cases (loadFile_eq_ok_iff.2 hs).symm.trans h
  · cases hf.loadFile.symm.trans h
  · cases hb.loadFile.symm.trans h
    exact hb

theorem loadFile_congr (h : files.entry p = files'.entry p) :
    loadFile yaml files p = loadFile yaml files' p := by
  delta loadFile
  simp only [Files.readText_normal, Files.readText_congr h]

/-! ### Candidates -/

theorem load_append (h : ∀ q ∈ before, Missing files q) (after : List String) :
    load yaml files (before ++ after) = load yaml files after := by
  induction before with
  | nil => rfl
  | cons q before ih =>
    obtain ⟨hq, hbefore⟩ := List.forall_mem_cons.1 h
    rw [List.cons_append, load.eq_def]
    dsimp only
    rw [hq.loadFile]
    exact ih hbefore

/-- The first file that is there decides: nothing that it holds passes for a missing file. -/
theorem load_cons (hthere : ¬Missing files p) (hopens : OpensNone yaml files p)
    (after : List String) :
    load yaml files (p :: after) = loadFile yaml files p := by
  rw [load.eq_def]
  dsimp only
  split
  · next h =>
    exact absurd rfl (((loadFile_eq_breakdown_iff hthere).1 h).ne_fileMissing hopens)
  · rfl

theorem missing_iff : Missing files p ↔
    '\x00' ∉ p.toList ∧ files.entry p = .error .missing :=
  ⟨fun ⟨hname, hentry⟩ => ⟨hname, hentry⟩, fun ⟨hname, hentry⟩ => ⟨hname, hentry⟩⟩

instance (files : Files) (p : String) : Decidable (Missing files p) :=
  decidable_of_iff _ missing_iff.symm

theorem missing_congr (h : files.entry p = files'.entry p) :
    Missing files p ↔ Missing files' p := by
  rw [missing_iff, missing_iff, h]

/-- Settings are empty if no candidate is there. Otherwise they are those of the first one that is,
or its failure is reported, whatever the candidates behind it are and hold. But a file derails
loading if its name, its text or its document breaks it off. The reader is taken to open no files,
as a candidate passes for missing if it reports so. -/
theorem load_outcome (yaml : Reader) (files : Files) (paths : List String) :
    ((∀ q ∈ paths, Missing files q) → load yaml files paths = .ok empty) ∧
    ∀ before p after, paths = before ++ p :: after → (∀ q ∈ before, Missing files q) →
      ¬Missing files p → OpensNone yaml files p →
      (∀ s, load yaml files paths = .ok s ↔ Gives yaml files p s) ∧
      (∀ f cause, load yaml files paths = .error (.failure f cause) ↔
        Refused yaml files p f ∧ f.kind = .config ∧ cause = none) ∧
      (∀ b, load yaml files paths = .error (.breakdown b) ↔ Derails yaml files p b) ∧
      ((∃ s, Gives yaml files p s) ∨ (∃ f, Refused yaml files p f) ∨ ∃ b, Derails yaml files p b) ∧
      ∀ (files' : Files) (after' : List String),
        (∀ q ∈ p :: before, files.entry q = files'.entry q) →
        load yaml files' (before ++ p :: after') = load yaml files paths := by
  constructor
  · intro h
    rw [← List.append_nil paths, load_append h]
    rfl
  · rintro before p after rfl hbefore hthere hopens
    have hload : load yaml files (before ++ p :: after) = loadFile yaml files p := by
      rw [load_append hbefore, load_cons hthere hopens]
    rw [hload]
    refine ⟨fun s => loadFile_eq_ok_iff, fun f cause => ?_,
      fun b => loadFile_eq_breakdown_iff hthere, (loadFile_or yaml files p).resolve_left hthere, ?_⟩
    · rw [loadFile_eq_failure_iff]
      exact ⟨fun ⟨hf, hcause⟩ => ⟨hf, hf.kind, hcause⟩, fun ⟨hf, _, hcause⟩ => ⟨hf, hcause⟩⟩
    · intro files' after' hsame
      obtain ⟨hp, hsame⟩ := List.forall_mem_cons.1 hsame
      have hbefore' : ∀ q ∈ before, Missing files' q := fun q hq =>
        (missing_congr (hsame q hq)).1 (hbefore q hq)
      rw [load_append hbefore', load_cons ((missing_congr hp).not.1 hthere) (hopens.congr hp),
        loadFile_congr hp]

/-- A file of settings, and another one behind it. -/
def layered (behind : String) : Files :=
  .ofList [("netsert.yaml", .file "defaults: {username: admin}\n".toUTF8.toList),
    ("etc/netsert.yaml", .file behind.toUTF8.toList)]

theorem opensNone_layered : OpensNone Yaml.load (layered "") "./netsert.yaml" := by
  intro text ht hmissing
  have hread : ((layered "").readText "./netsert.yaml").toOption.map
      (fun text => (Yaml.load text).toOption.isSome) = some true := by decide +kernel
  rw [ht] at hread
  simp [hmissing, Except.toOption] at hread

theorem load_layered :
    load Yaml.load (layered "") [".netsert.yaml", "etc/.netsert.yaml"] = .ok empty ∧
    (∃ s, Gives Yaml.load (layered "") "./netsert.yaml" s ∧ s.defaults = ⟨"admin", "", false⟩ ∧
      s.source = some "netsert.yaml") ∧
    load Yaml.load (layered "- 1\n") [".netsert.yaml", "./netsert.yaml"] =
      load Yaml.load (layered "") [".netsert.yaml", "./netsert.yaml", "etc/netsert.yaml"] := by
  obtain ⟨hnone, -⟩ := load_outcome Yaml.load (layered "") [".netsert.yaml", "etc/.netsert.yaml"]
  obtain ⟨-, hfirst⟩ :=
    load_outcome Yaml.load (layered "") [".netsert.yaml", "./netsert.yaml", "etc/netsert.yaml"]
  obtain ⟨hok, -, -, -, hsame⟩ := hfirst [".netsert.yaml"] "./netsert.yaml" ["etc/netsert.yaml"]
    rfl (by decide +kernel) (by decide +kernel) opensNone_layered
  have hloaded : (load Yaml.load (layered "")
      [".netsert.yaml", "./netsert.yaml", "etc/netsert.yaml"]).toOption.map
        (fun s => (s.defaults, s.source)) =
      some (⟨"admin", "", false⟩, some "netsert.yaml") := by decide +kernel
  obtain ⟨s, hs, hfields⟩ := Option.map_eq_some_iff.1 hloaded
  obtain ⟨hdefaults, hsource⟩ := Prod.mk.inj hfields
  exact ⟨hnone (by decide +kernel),
    ⟨s, (hok s).1 (toOption_eq_some_iff.1 hs), hdefaults, hsource⟩,
    hsame (layered "- 1\n") [] (by decide +kernel)⟩

/-- A file in which the settings for a device are a text. -/
def worded : Files := .ofList [("netsert.yaml", .file "targets: {r: x}\n".toUTF8.toList)]

def breakdown? : Except Fault Settings → Option Breakdown
  | .error (.breakdown b) => some b
  | _ => none

theorem eq_of_breakdown? {o : Except Fault Settings} (h : breakdown? o = some b) :
    o = .error (.breakdown b) := by
  unfold breakdown? at h
  split at h
  · rw [Option.some.inj h]
  · cases h

/-- Loading breaks off on the file, which is there, and reports no failure. -/
theorem load_worded : ¬Missing worded "netsert.yaml" ∧
    load Yaml.load worded ["netsert.yaml"] = .error (.breakdown .notMapping) :=
  ⟨by decide +kernel, eq_of_breakdown? (by decide +kernel)⟩

end StateCheck.Settings
